import CallMarkup.Data.Event

/-!
# JSON

Reads a text in JSON as a stream of events.  The notation is taken strictly:
no comments, no trailing commas, no leading zeros, and every surrogate escape
is half of a pair.
-/

namespace CallMarkup.Data.Json

def dropBlanks (text : Text) : Text :=
  text.dropWhile fun c => c == ' ' || c == '\t' || c == '\n' || c == '\r'

/-- The value of four hexadecimal digits and what follows them. -/
def readUnit? : Text → Option (Nat × Text)
  | a :: b :: c :: d :: rest => (numberOfDigits? 16 [a, b, c, d]).map (·, rest)
  | _ => none

/-- The character of a numeric escape, after its introducing letter.  A code
point beyond 16 bits is written as two escapes. -/
def readCodePoint? (text : Text) : Option (Char × Text) := do
  let (unit, rest) ← readUnit? text
  if 0xD800 ≤ unit ∧ unit < 0xDC00 then
    match rest with
    | '\\' :: 'u' :: rest =>
      let (second, rest) ← readUnit? rest
      if 0xDC00 ≤ second ∧ second < 0xE000 then
        let c ← charOfCode? (0x10000 + (unit - 0xD800) * 0x400 + (second - 0xDC00))
        return (c, rest)
      else none
    | _ => none
  else
    let c ← charOfCode? unit
    return (c, rest)

/-- The character that a letter stands for after a backslash. -/
def simpleEscape? : Char → Option Char
  | '"' => some '"'
  | '\\' => some '\\'
  | '/' => some '/'
  | 'b' => some '\x08'
  | 'f' => some '\x0c'
  | 'n' => some '\n'
  | 'r' => some '\r'
  | 't' => some '\t'
  | _ => none

/-- The rest of a string after its opening quotation mark, and what follows the
closing one. -/
def readString? : (steps : Nat) → Text → Option (Text × Text)
  | 0, _ => none
  | steps + 1, text =>
    match text with
    | '"' :: rest => some ([], rest)
    | '\\' :: 'u' :: rest => do
      let (c, rest) ← readCodePoint? rest
      let (string, rest) ← readString? steps rest
      return (c :: string, rest)
    | '\\' :: letter :: rest => do
      let c ← simpleEscape? letter
      let (string, rest) ← readString? steps rest
      return (c :: string, rest)
    | c :: rest => do
      if c = '\\' ∨ c < ' ' then none
      else
        let (string, rest) ← readString? steps rest
        return (c :: string, rest)
    | [] => none

/-- The digits at the beginning of a text, at least one, and what follows. -/
def readDigits? (text : Text) : Option (Text × Text) :=
  let digits := text.takeWhile Char.isDigit
  if digits = [] then none else some (digits, text.drop digits.length)

/-- What follows the exponent of a number, which may be missing. -/
def dropExponent? : Text → Option (Bool × Text)
  | c :: rest =>
    if c = 'e' ∨ c = 'E' then
      let digits :=
        match rest with
        | '+' :: digits | '-' :: digits => digits
        | digits => digits
      (readDigits? digits).map fun (_, rest) => (true, rest)
    else some (false, c :: rest)
  | [] => some (false, [])

/-- A number and what follows it.  Only a number written with digits alone is a
natural number. -/
def readNumber? (text : Text) : Option (Scalar × Text) := do
  let (negative, text) :=
    match text with
    | '-' :: text => (true, text)
    | text => (false, text)
  let (digits, rest) ← readDigits? text
  if digits.head? = some '0' ∧ digits.length ≠ 1 then none
  let (fraction, rest) ←
    match rest with
    | '.' :: rest => (readDigits? rest).map fun (_, rest) => (true, rest)
    | rest => some (false, rest)
  let (exponent, rest) ← dropExponent? rest
  let natural? :=
    if negative || fraction || exponent then none
    else (numberOfDigits? 10 digits).bind fitting?
  return ({ natural? }, rest)

def readScalar? (steps : Nat) (text : Text) : Option (Scalar × Text) :=
  match text with
  | '"' :: rest =>
    (readString? steps rest).map fun (string, rest) => ({ text? := some string }, rest)
  | 't' :: 'r' :: 'u' :: 'e' :: rest => some ({ bool? := some true }, rest)
  | 'f' :: 'a' :: 'l' :: 's' :: 'e' :: rest => some ({ bool? := some false }, rest)
  | 'n' :: 'u' :: 'l' :: 'l' :: rest => some ({ isNull := true }, rest)
  | text => readNumber? text

inductive Container
  | sequence
  | mapping
  deriving DecidableEq

inductive Expected
  | value
  | firstElement
  | firstKey
  | key
  | afterValue
  deriving DecidableEq

/-- The events of the rest of a text, inside the given containers. -/
def events : (steps : Nat) → List Container → Expected → Text → Stream
  | 0, _, _, _ => .broken
  | steps + 1, containers, expected, text =>
    match expected, containers, dropBlanks text with
    | .firstElement, _ :: containers, ']' :: rest
    | .afterValue, .sequence :: containers, ']' :: rest =>
      (events steps containers .afterValue rest).cons .closeSequence
    | .firstKey, _ :: containers, '\x7d' :: rest
    | .afterValue, .mapping :: containers, '\x7d' :: rest =>
      (events steps containers .afterValue rest).cons .closeMapping
    | .afterValue, .sequence :: _, ',' :: rest => events steps containers .value rest
    | .afterValue, .mapping :: _, ',' :: rest => events steps containers .key rest
    | .afterValue, [], [] => { complete := true }
    | .afterValue, _, _ => .broken
    | .firstKey, _, '"' :: rest | .key, _, '"' :: rest =>
      match readScalar? steps ('"' :: rest) with
      | none => .broken
      | some (key, rest) =>
        match dropBlanks rest with
        | ':' :: rest => (events steps containers .value rest).cons (.scalar key)
        | _ => Stream.broken.cons (.scalar key)
    | .firstKey, _, _ | .key, _, _ => .broken
    | .value, _, '[' :: rest | .firstElement, _, '[' :: rest =>
      (events steps (.sequence :: containers) .firstElement rest).cons .openSequence
    | .value, _, '\x7b' :: rest | .firstElement, _, '\x7b' :: rest =>
      (events steps (.mapping :: containers) .firstKey rest).cons .openMapping
    | .value, _, text | .firstElement, _, text =>
      match readScalar? steps text with
      | some (scalar, rest) => (events steps containers .afterValue rest).cons (.scalar scalar)
      | none => .broken

def stream (text : Text) : Stream :=
  events (2 * text.length + 2) [] .value text

end CallMarkup.Data.Json
