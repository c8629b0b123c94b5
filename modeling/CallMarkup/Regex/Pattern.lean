import CallMarkup.Regex.Footprint
import CallMarkup.Regex.Pattern.Bracket
import CallMarkup.Regex.Search

/-!
# Patterns

The notation of regular expressions.  Reading a pattern yields a program and
the names of its groups, or nothing when the pattern breaks the notation, nests
too deeply or repeats too much.  The notation has neither back references nor
conditions on the text around a match other than the assertions.
-/

namespace CallMarkup

/-- A regular expression read from a pattern. -/
structure Pattern where
  program : Program
  /-- The names of the groups 1, 2, … in the order of their opening
  parentheses. -/
  groupNames : List (Option Text)

namespace Pattern

/-- Turns one switch on or off. -/
def setFlag (flags : Flags) (value : Bool) : Char → Option Flags
  | 'i' => some { flags with ignoreCase := value }
  | 'm' => some { flags with multiLine := value }
  | 's' => some { flags with dotAll := value }
  | 'U' => some { flags with swapGreed := value }
  | 'u' => some { flags with unicode := value }
  | 'R' => some { flags with pairedLineBreaks := value }
  | 'x' => some { flags with verbose := value }
  | _ => none

/-- The switches after a list of flags.  No flag is repeated, and a hyphen is
followed by the flags that it turns off. -/
def applyFlags : (flags : Flags) → (seen : Text) → Text → Option Flags
  | flags, seen, [] => if seen.head? = some '-' then none else some flags
  | flags, seen, c :: rest =>
    if c ∈ seen then none
    else if c = '-' then applyFlags flags (c :: seen) rest
    else
      match setFlag flags (!('-' ∈ seen)) c with
      | some flags => applyFlags flags (c :: seen) rest
      | none => none

def isNameChar (first : Bool) (c : Char) : Bool :=
  c == '_' ||
    if first then Unicode.isAlphabetic c
    else c == '.' || c == '[' || c == ']' || Unicode.isAlphanumeric c

/-- What an opening parenthesis begins. -/
inductive Opening
  | capturing (name : Option Text)
  | grouping (flags : Flags)
  /-- The switches change up to the end of the enclosing group. -/
  | switches (flags : Flags)

def readOpening : Reading Opening := do
  skipBlanks
  let remainder ← get
  match remainder.rest with
  | '?' :: '=' :: _ | '?' :: '!' :: _ | '?' :: '<' :: '=' :: _ | '?' :: '<' :: '!' :: _ => invalid
  | '?' :: 'P' :: '<' :: rest => readName remainder rest
  | '?' :: '<' :: rest => readName remainder rest
  | '?' :: rest =>
    let listed := rest.takeWhile fun c => c != ':' && c != ')'
    let some flags := applyFlags remainder.flags [] listed | invalid
    match rest.drop listed.length with
    | ':' :: rest =>
      set { remainder with rest }
      return .grouping flags
    | ')' :: rest =>
      demand (!listed.isEmpty)
      set { remainder with rest }
      return .switches flags
    | _ => invalid
  | _ => return .capturing none
where
  /-- Reads a group name up to its closing bracket. -/
  readName (remainder : Remainder) (rest : Text) : Reading Opening := do
    let name := rest.takeWhile (· != '>')
    demand (rest.length != name.length)
    match name with
    | [] => invalid
    | first :: others => demand (isNameChar true first && others.all (isNameChar false))
    demand (!remainder.groupNames.contains (some name))
    set { remainder with rest := rest.drop (name.length + 1) }
    return .capturing (some name)

def readNumber : Reading Nat := do
  let rest := (← get).rest.dropWhile Unicode.isWhiteSpace
  let digits := rest.takeWhile Unicode.isAsciiDigit
  let some value := numberOfDigits? 10 digits | invalid
  demand (value < UInt32.size)
  modify fun remainder =>
    { remainder with rest := (rest.drop digits.length).dropWhile Unicode.isWhiteSpace }
  return value

def readBounds : Reading Bounds := do
  skipBlanks
  let least ← readNumber
  let bounds ←
    if (← current) = ',' then do
      bumpSkip
      if (← current) = '}' then pure ⟨least, none⟩
      else pure ⟨least, some (← readNumber)⟩
    else pure ⟨least, some least⟩
  demand ((← take) == '}')
  demand (bounds.most.all (least ≤ ·))
  return bounds

/-- Reads the mark of a lazy repetition and decides whether the repetition is
greedy. -/
def readGreed : Reading Bool := do
  let lazily ← accept ['?']
  return lazily == (← get).flags.swapGreed

/-- The set of characters that a dot stands for. -/
def dotSet (flags : Flags) : CharSet :=
  if flags.dotAll then .all
  else if flags.pairedLineBreaks then (CharSet.ofChars ['\n', '\r']).complement
  else (CharSet.single '\n').complement

def readSingle : Reading Regex := do
  let flags := (← get).flags
  let c ← take
  match c with
  | '\\' =>
    match ← readEscape with
    | .literal c => return .ofSet (foldCase flags (.single c)) flags.unicode
    | .set accepts => return .ofSet accepts flags.unicode
    | .assertion condition => return .assertion condition
  | '.' =>
    demand flags.unicode
    return .ofSet (dotSet flags) true
  | '^' =>
    return .assertion <|
      if flags.multiLine then
        if flags.pairedLineBreaks then .pairedLineStart else .lineStart
      else .textStart
  | '$' =>
    return .assertion <|
      if flags.multiLine then
        if flags.pairedLineBreaks then .pairedLineEnd else .lineEnd
      else .textEnd
  | c => return .ofSet (foldCase flags (.single c)) flags.unicode

/-- A part of a list in a pattern. -/
inductive Part
  | expr (nested : Nested Regex)
  /-- A change of the switches, which matches the empty text. -/
  | switches

def Part.nested : Part → Nested Regex
  | expr nested => nested
  | switches => ⟨.empty, 0⟩

/-- What has been read of a group: the finished alternatives and the parts of the
current one, the latest first. -/
structure Body where
  finished : List (Nested Regex) := []
  current : List Part := []

namespace Body

def add (body : Body) (part : Part) : Body :=
  { body with current := part :: body.current }

def alternative (body : Body) : Nested Regex :=
  let parts := body.current.reverse.map Part.nested
  ⟨.concat (parts.map (·.value)), listDepth (parts.map (·.depth))⟩

def nextAlternative (body : Body) : Body :=
  { finished := body.alternative :: body.finished }

def nested (body : Body) : Nested Regex :=
  let alternatives := (body.alternative :: body.finished).reverse
  ⟨.alternation (alternatives.map (·.value)), listDepth (alternatives.map (·.depth))⟩

/-- Repeats the latest part, which must match something other than a change of
the switches. -/
def repeatLast (body : Body) (bounds : Bounds) (greedy : Bool) : Reading Body :=
  match body.current with
  | .expr ⟨inner, depth⟩ :: parts =>
    return { body with
      current := .expr ⟨.repetition inner bounds greedy, depth + 1⟩ :: parts }
  | _ => invalid

end Body

/-- Reads the rest of a group or of the whole pattern. -/
def readBody (inGroup : Bool) : (steps : Nat) → Body → Reading (Nested Regex)
  | 0, _ => invalid
  | steps + 1, body => do
    skipBlanks
    match ← peek? with
    | none =>
      demand (!inGroup)
      return body.nested
    | some '(' =>
      bump
      let before := (← get).flags
      let restore : Reading PUnit := modify fun remainder => { remainder with flags := before }
      match ← readOpening with
      | .switches flags =>
        modify fun remainder => { remainder with flags }
        readBody inGroup steps (body.add .switches)
      | .grouping flags =>
        modify fun remainder => { remainder with flags }
        let inner ← readBody true steps {}
        restore
        readBody inGroup steps (body.add (.expr ⟨inner.value, inner.depth + 1⟩))
      | .capturing name =>
        modify (·.openGroup name)
        let index := (← get).groupCount
        let inner ← readBody true steps {}
        restore
        readBody inGroup steps (body.add (.expr ⟨.group index inner.value, inner.depth + 1⟩))
    | some ')' =>
      demand inGroup
      bump
      return body.nested
    | some '|' =>
      bump
      readBody inGroup steps body.nextAlternative
    | some '[' =>
      let unicode := (← get).flags.unicode
      let set ← readClass
      readBody inGroup steps (body.add (.expr ⟨.ofSet set.value unicode, set.depth⟩))
    | some '?' => readRepetition inGroup steps body ⟨0, some 1⟩
    | some '*' => readRepetition inGroup steps body ⟨0, none⟩
    | some '+' => readRepetition inGroup steps body ⟨1, none⟩
    | some '{' =>
      demand !body.current.isEmpty
      bump
      let bounds ← readBounds
      skipBlanks
      readBody inGroup steps (← body.repeatLast bounds (← readGreed))
    | some _ =>
      let single ← readSingle
      readBody inGroup steps (body.add (.expr ⟨single, 0⟩))
where
  /-- Reads a repetition mark of one character. -/
  readRepetition (inGroup : Bool) (steps : Nat) (body : Body) (bounds : Bounds) :
      Reading (Nested Regex) := do
    bump
    readBody inGroup steps (← body.repeatLast bounds (← readGreed))

/-- The names of the groups up to the last one that the expression holds.  A
group inside a part repeated zero times is not held and has no name. -/
def heldNames (expr : Regex) (groupNames : List (Option Text)) : List (Option Text) :=
  let indices := expr.groupIndices
  let held := Std.HashSet.ofList indices
  let last := indices.foldl max 0
  (groupNames.zipIdx 1).filterMap fun (name, index) =>
    if held.contains index then some name
    else if index < last then some none
    else none

/-- How deeply the parts of a pattern may be nested. -/
def depthLimit : Nat :=
  250

/-- The pattern that a text is written as.  It is not read if it names a set of
characters that has no name here (`CharSet.ofUnicodeName?`). -/
def read? (text : Text) : Option Pattern := do
  let (⟨expr, depth⟩, remainder) ← (readBody false (text.length + 1) {}).run (.ofText text)
  if depth ≤ depthLimit && expr.isWithinLimit then
    return ⟨expr.program, heldNames expr remainder.groupNames.reverse⟩
  else none

end Pattern

end CallMarkup
