import CallMarkup.Data.Yaml.Property
import CallMarkup.Data.Yaml.Scalar

/-!
# YAML tokens

The words and marks of a YAML text, with the block structure that indentation
implies made explicit.  A scalar or a flow collection on one line may turn out
to be the key of a mapping when a colon follows, and then a key mark, and
perhaps the beginning of the mapping, come before it.  So a token is settled
only when nothing can come before it any more.  Where the text breaks the
notation, the settled tokens are those that a reader had received by then.
-/

namespace CallMarkup.Data.Yaml

/-- Words and marks of a text. -/
inductive Token
  | documentStart
  | documentEnd
  | streamEnd
  | blockSequenceStart
  | blockMappingStart
  | blockEnd
  | flowSequenceStart
  | flowSequenceEnd
  | flowMappingStart
  | flowMappingEnd
  | flowEntry
  | blockEntry
  | key
  | value
  | anchor (name : Text)
  | alias (name : Text)
  | tag (tag : Tag)
  | directive (directive : Directive)
  | scalar (style : Style) (text : Text)
  deriving DecidableEq

/-- A place where a key without a mark of its own may begin. -/
structure PossibleKey where
  /-- The number of flow collections around the key. -/
  level : Nat
  /-- The number of tokens before the key. -/
  number : Nat
  index : Nat
  line : Nat
  column : Nat
  /-- Whether nothing else may begin there. -/
  required : Bool
  deriving DecidableEq

structure Scanner where
  source : Source
  /-- Tokens that have been read and are not settled. -/
  queue : List Token := []
  /-- The number of settled tokens. -/
  settled : Nat := 0
  /-- The columns of the open blocks, the innermost first. -/
  indents : List Nat := []
  /-- The number of open flow collections. -/
  level : Nat := 0
  /-- The keys that may begin, at most one in each open collection, the innermost
  first. -/
  keys : List PossibleKey := []
  /-- Whether a key may begin at the next token. -/
  keyAllowed : Bool := true
  ended : Bool := false
  deriving DecidableEq

namespace Scanner

def inFlow (scanner : Scanner) : Bool :=
  scanner.level != 0

def indent? (scanner : Scanner) : Option Nat :=
  scanner.indents.head?

def push (scanner : Scanner) (token : Token) : Scanner :=
  { scanner with queue := scanner.queue ++ [token] }

/-- Adds a token in front of the one with the given number. -/
def insert (scanner : Scanner) (number : Nat) (token : Token) : Scanner :=
  let (before, after) := scanner.queue.splitAt (number - scanner.settled)
  { scanner with queue := before ++ token :: after }

def skip (scanner : Scanner) (count : Nat := 1) : Scanner :=
  { scanner with source := scanner.source.skip count }

/-- Whether the place for a key has been left behind. -/
def isStale (source : Source) (key : PossibleKey) : Bool :=
  key.line < source.line || key.index + 1024 < source.index

/-- Gives up the places for keys that have been left behind.  A key that was
required there is a fault. -/
def dropStale? (scanner : Scanner) : Option Scanner :=
  let (stale, keys) := scanner.keys.partition (isStale scanner.source)
  if stale.any (·.required) then none else some { scanner with keys }

def ownKey? (scanner : Scanner) : Option PossibleKey :=
  scanner.keys.head?.filter (·.level = scanner.level)

/-- Gives up the place for a key in the innermost collection. -/
def dropKey? (scanner : Scanner) : Option Scanner :=
  match scanner.ownKey? with
  | some key => if key.required then none else some { scanner with keys := scanner.keys.tail }
  | none => some scanner

/-- Notes that a key may begin here, if it may. -/
def noteKey? (scanner : Scanner) : Option Scanner :=
  if scanner.keyAllowed then do
    let source := scanner.source
    let key : PossibleKey :=
      { level := scanner.level
        number := scanner.settled + scanner.queue.length
        index := source.index
        line := source.line
        column := source.column
        required := !scanner.inFlow && scanner.indent? == some source.column }
    let scanner ← scanner.dropKey?
    return { scanner with keys := key :: scanner.keys }
  else some scanner

/-- Opens a block at a column unless one is open there.  Its mark comes in
front of the token with the given number, or else at the end. -/
def openBlock (scanner : Scanner) (column : Nat) (number? : Option Nat) (mark : Token) :
    Scanner :=
  if scanner.inFlow || scanner.indent?.any (column ≤ ·) then scanner
  else
    let scanner := { scanner with indents := column :: scanner.indents }
    match number? with
    | some number => scanner.insert number mark
    | none => scanner.push mark

def closeBlocks (scanner : Scanner) (test : Nat → Bool) : Scanner :=
  if scanner.inFlow then scanner
  else
    let closed := scanner.indents.takeWhile test
    { scanner with
      indents := scanner.indents.drop closed.length
      queue := scanner.queue ++ closed.map fun _ => .blockEnd }

/-- Passes over blanks, comments and line breaks before a token.  In a block, a
tab cannot stand where a key may begin.  A byte order mark takes up a column. -/
def skipToToken : (steps : Nat) → Scanner → Scanner
  | 0, scanner => scanner
  | steps + 1, scanner =>
    let source := scanner.source.skipOrderMark.skipWhile fun c =>
      c == ' ' || (c == '\t' && (scanner.inFlow || !scanner.keyAllowed))
    let source := source.skipComment
    if !source.rest.isEmpty && endsLine source.rest then
      skipToToken steps { scanner with
        source := source.skipBreak
        keyAllowed := scanner.keyAllowed || !scanner.inFlow }
    else { scanner with source }

/-- Ends all blocks, as the marks of documents do. -/
def endBlocks? (scanner : Scanner) : Option Scanner := do
  let scanner ← (scanner.closeBlocks fun _ => true).dropKey?
  return { scanner with keyAllowed := false }

/-- Reads the end of the text, which ends the last line as well. -/
def readEnd? (scanner : Scanner) : Option Scanner := do
  let scanner ← scanner.endBlocks?
  let source := { scanner.source with line := scanner.source.line + 1, column := 0 }
  return { scanner.push .streamEnd with source, ended := true }

def readMarker? (scanner : Scanner) (token : Token) : Option Scanner := do
  let scanner ← scanner.endBlocks?
  return (scanner.skip 3).push token

def readDirective? (scanner : Scanner) : Option Scanner := do
  let scanner ← scanner.endBlocks?
  let (directive, source) ← Yaml.readDirective? scanner.source
  return { scanner.push (.directive directive) with source }

/-- Reads a token with which a key may begin. -/
def readMayBeKey? {α : Type} (scanner : Scanner) (read : Source → Option (α × Source))
    (token : α → Token) : Option Scanner := do
  let scanner ← scanner.noteKey?
  let (value, source) ← read scanner.source
  return { scanner.push (token value) with source, keyAllowed := false }

def readFlowStart? (scanner : Scanner) (token : Token) : Option Scanner := do
  let scanner ← scanner.noteKey?
  return { (scanner.skip).push token with level := scanner.level + 1, keyAllowed := true }

def readFlowEnd? (scanner : Scanner) (token : Token) : Option Scanner := do
  let scanner ← scanner.dropKey?
  return { (scanner.skip).push token with level := scanner.level - 1, keyAllowed := false }

def readFlowEntry? (scanner : Scanner) : Option Scanner := do
  let scanner ← scanner.dropKey?
  return { (scanner.skip).push .flowEntry with keyAllowed := true }

/-- Reads the mark of an entry of a block, which may open the block. -/
def readBlockMark? (scanner : Scanner) (start token : Token) (keyAllowed : Bool) :
    Option Scanner := do
  let scanner ←
    if scanner.inFlow then some scanner
    else if scanner.keyAllowed then
      some (scanner.openBlock scanner.source.column none start)
    else none
  let scanner ← scanner.dropKey?
  return { (scanner.skip).push token with keyAllowed }

/-- Reads the colon before a value.  It makes a key of what began at the place
noted for one. -/
def readValue? (scanner : Scanner) : Option Scanner :=
  match scanner.ownKey? with
  | some key =>
    let scanner := scanner.insert key.number .key
    let scanner := scanner.openBlock key.column (some key.number) .blockMappingStart
    some { (scanner.skip).push .value with keys := scanner.keys.tail, keyAllowed := false }
  | none =>
    if scanner.inFlow then some { (scanner.skip).push .value with keyAllowed := false }
    else if scanner.keyAllowed then
      let scanner := scanner.openBlock scanner.source.column none .blockMappingStart
      some { (scanner.skip).push .value with keyAllowed := true }
    else none

def readBlockScalar? (scanner : Scanner) (literal : Bool) : Option Scanner := do
  let scanner ← scanner.dropKey?
  let (text, source) ← readBlock? literal scanner.indent? (scanner.source.skip)
  let style := if literal then Style.literal else Style.quoted
  return { scanner.push (.scalar style text) with source, keyAllowed := true }

def readQuotedScalar? (scanner : Scanner) (single : Bool) : Option Scanner :=
  let read (source : Source) := readQuoted? single (2 * source.textLength + 2) source.skip
  scanner.readMayBeKey? read (.scalar .quoted)

def readPlainScalar? (scanner : Scanner) : Option Scanner := do
  let scanner ← scanner.noteKey?
  let source := scanner.source
  let indent := match scanner.indent? with | some indent => indent + 1 | none => 0
  let (text, broken, source) ←
    readPlain? scanner.inFlow indent (2 * source.textLength + 2) {} source
  return { scanner.push (.scalar .plain text) with source, keyAllowed := broken }

/-- Characters with which no plain scalar begins. -/
def isIndicator (c : Char) : Bool :=
  ['-', '?', ':', ',', '[', ']', '\x7b', '\x7d', '#', '&', '*', '!', '|', '>', '\'', '"', '%', '@',
    '\x60'].contains c

def readToken? (scanner : Scanner) : Option Scanner := do
  let scanner ← (scanner.skipToToken (scanner.source.textLength + 1)).dropStale?
  let column := scanner.source.column
  let scanner := scanner.closeBlocks (column < ·)
  let source := scanner.source
  match source.rest with
  | [] => scanner.readEnd?
  | c :: rest =>
    let alone := endsWord rest
    if column = 0 ∧ c = '%' then scanner.readDirective?
    else if source.atMarker '-' then scanner.readMarker? .documentStart
    else if source.atMarker '.' then scanner.readMarker? .documentEnd
    else if c = '[' then scanner.readFlowStart? .flowSequenceStart
    else if c = '\x7b' then scanner.readFlowStart? .flowMappingStart
    else if c = ']' then scanner.readFlowEnd? .flowSequenceEnd
    else if c = '\x7d' then scanner.readFlowEnd? .flowMappingEnd
    else if c = ',' then scanner.readFlowEntry?
    else if c = '-' ∧ alone then scanner.readBlockMark? .blockSequenceStart .blockEntry true
    else if c = '?' ∧ (scanner.inFlow ∨ alone) then
      scanner.readBlockMark? .blockMappingStart .key (!scanner.inFlow)
    else if c = ':' ∧ (scanner.inFlow ∨ alone) then scanner.readValue?
    else if c = '*' then scanner.readMayBeKey? (fun source => readAnchor? source.skip) .alias
    else if c = '&' then scanner.readMayBeKey? (fun source => readAnchor? source.skip) .anchor
    else if c = '!' then scanner.readMayBeKey? (readTag? scanner.inFlow) .tag
    else if c = '|' ∧ !scanner.inFlow then scanner.readBlockScalar? true
    else if c = '>' ∧ !scanner.inFlow then scanner.readBlockScalar? false
    else if c = '\'' then scanner.readQuotedScalar? true
    else if c = '"' then scanner.readQuotedScalar? false
    else if !isIndicator c && !isBlank c then scanner.readPlainScalar?
    else if c = '-' ∧ !rest.head?.any isBlank then scanner.readPlainScalar?
    else if !scanner.inFlow ∧ (c = '?' ∨ c = ':') ∧ !alone then scanner.readPlainScalar?
    else none

/-- The settled tokens of a text. -/
def tokens : (steps : Nat) → Scanner → List Token
  | 0, _ => []
  | steps + 1, scanner =>
    match scanner.dropStale? with
    | none => []
    | some scanner =>
      let unsettled := scanner.keys.any (·.number = scanner.settled)
      match scanner.queue with
      | token :: queue =>
        if unsettled then continueReading steps scanner
        else token :: tokens steps { scanner with queue, settled := scanner.settled + 1 }
      | [] => if scanner.ended then [] else continueReading steps scanner
where
  /-- Reads one more token. -/
  continueReading (steps : Nat) (scanner : Scanner) : List Token :=
    match scanner.readToken? with
    | none => []
    | some scanner => tokens steps scanner

end Scanner

def tokens (text : Text) : List Token :=
  if text.all isAllowed then Scanner.tokens (8 * text.length + 16) { source := .ofText text }
  else []

end CallMarkup.Data.Yaml
