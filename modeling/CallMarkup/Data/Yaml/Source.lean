import CallMarkup.Data.Event

/-!
# YAML sources

A position in a YAML text, with the line and the column that decide the
structure, and the kinds of characters that end words and lines.
-/

namespace CallMarkup.Data.Yaml

/-- What is left of a text, and where that is. -/
structure Source where
  rest : Text
  /-- The number of characters in the whole text, which bounds all loops. -/
  textLength : Nat
  /-- The number of characters before. -/
  index : Nat := 0
  line : Nat := 0
  column : Nat := 0
  deriving DecidableEq

def isBreak (c : Char) : Bool :=
  c == '\n' || c == '\r' || c == '\u0085' || c == '\u2028' || c == '\u2029'

def isBlank (c : Char) : Bool :=
  c == ' ' || c == '\t'

/-- Whether a text ends or a word in it does. -/
def endsWord : Text → Bool
  | [] => true
  | c :: _ => isBlank c || isBreak c

/-- Whether a text ends or a line in it does. -/
def endsLine : Text → Bool
  | [] => true
  | c :: _ => isBreak c

/-- Characters that may occur in a YAML text. -/
def isAllowed (c : Char) : Bool :=
  c == '\t' || c == '\n' || c == '\r' || (' ' ≤ c && c ≤ '~') || c == '\u0085' ||
    ('\u00a0' ≤ c && c != '\ufffe' && c != '\uffff')

namespace Source

def ofText (text : Text) : Source :=
  { rest := text, textLength := text.length }

/-- Passes over characters of one line. -/
def skip (source : Source) (count : Nat := 1) : Source :=
  { source with
    rest := source.rest.drop count
    index := source.index + count
    column := source.column + count }

def skipBreak (source : Source) : Source :=
  let count := if [('\r'), '\n'] <+: source.rest then 2 else 1
  { source with
    rest := source.rest.drop count
    index := source.index + count
    line := source.line + 1
    column := 0 }

/-- The text of the line break that comes next.  The usual breaks are written
as a line feed. -/
def breakText (source : Source) : Text :=
  match source.rest with
  | c :: _ => if c = '\u2028' ∨ c = '\u2029' then [c] else if isBreak c then ['\n'] else []
  | [] => []

/-- Passes over characters of one line as long as a test holds. -/
def skipWhile (source : Source) (test : Char → Bool) : Source :=
  source.skip (source.rest.takeWhile fun c => test c && !isBreak c).length

def skipOrderMark (source : Source) : Source :=
  if source.index = 0 ∧ source.rest.head? = some '\ufeff' then source.skip else source

def skipComment (source : Source) : Source :=
  if source.rest.head? = some '#' then source.skipWhile fun _ => true else source

/-- Passes over the end of a line, in which only blanks and a comment may come
before the break. -/
def skipLineEnd? (source : Source) : Option Source :=
  let source := (source.skipWhile isBlank).skipComment
  if source.rest.isEmpty then some source
  else if endsLine source.rest then some source.skipBreak
  else none

/-- Whether a mark of three characters stands alone at the start of a line. -/
def atMarker (source : Source) (mark : Char) : Bool :=
  source.column == 0 && [mark, mark, mark].isPrefixOf source.rest && endsWord (source.rest.drop 3)

def atDocumentMarker (source : Source) : Bool :=
  source.atMarker '-' || source.atMarker '.'

end Source

end CallMarkup.Data.Yaml
