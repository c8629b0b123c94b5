import CallMarkup.Data.Yaml.Source

/-!
# YAML scalars

Scalars are plain, quoted or blocks of lines.  A single line break inside a
scalar that is not a literal block reads as a space, and further ones stand for
themselves.  Only plain scalars, and literal blocks whose tag says so, may be
read as anything but text.
-/

namespace CallMarkup.Data.Yaml

/-- Blanks and line breaks inside a scalar. -/
structure Gap where
  /-- Blanks before the first line break. -/
  blanks : Text := []
  /-- The first line break, if there is one. -/
  first : Text := []
  /-- The line breaks after the first one. -/
  more : Text := []
  /-- Whether a line break has been passed, also one that is not kept. -/
  broken : Bool := false
  deriving DecidableEq

namespace Gap

/-- What a gap between words reads as. -/
def text (gap : Gap) : Text :=
  if !gap.broken then gap.blanks
  else if gap.first = ['\n'] then
    if gap.more = [] then [' '] else gap.more
  else gap.first ++ gap.more

end Gap

/-- Passes over blanks and line breaks.  With a least `indent`, a tab left of
it after a line break is a fault. -/
def readGap? (indent : Option Nat) : (steps : Nat) → Gap → Source → Option (Gap × Source)
  | 0, _, _ => none
  | steps + 1, gap, source =>
    match source.rest with
    | [] => some (gap, source)
    | c :: _ =>
      if isBlank c then
        if gap.broken then
          if c = '\t' ∧ indent.any (source.column < ·) = true then none
          else readGap? indent steps gap source.skip
        else readGap? indent steps { gap with blanks := gap.blanks ++ [c] } source.skip
      else if isBreak c then
        if gap.broken then
          readGap? indent steps { gap with more := gap.more ++ source.breakText } source.skipBreak
        else
          readGap? indent steps { gap with blanks := [], first := source.breakText, broken := true }
            source.skipBreak
      else some (gap, source)

/-- Whether a plain scalar ends before the rest of a line. -/
def endsPlain (inFlow : Bool) : Text → Bool
  | [] => true
  | c :: rest =>
    (c == ':' && endsWord rest) || (inFlow && [',', '[', ']', '\x7b', '\x7d'].contains c)

/-- Whether a colon stands where a flow collection does not allow one. -/
def misplacedColon (inFlow : Bool) : Text → Bool
  | ':' :: c :: _ => inFlow && [',', '?', '[', ']', '\x7b', '\x7d'].contains c
  | _ => false

/-- The text of a plain scalar, and whether a line break follows it.  In a
block it ends at a line that is indented less than `indent`. -/
def readPlain? (inFlow : Bool) (indent : Nat) : (steps : Nat) → (gap : Gap) → Source →
    Option (Text × Bool × Source)
  | 0, _, _ => none
  | steps + 1, gap, source =>
    if source.atDocumentMarker || source.rest.head? == some '#' then
      some ([], gap.broken, source)
    else readWord steps gap source
where
  /-- Reads words until a gap. -/
  readWord : (steps : Nat) → (gap : Gap) → Source → Option (Text × Bool × Source)
  | 0, _, _ => none
  | steps + 1, gap, source =>
    if endsWord source.rest then
      if endsLine source.rest && source.rest.isEmpty then some ([], gap.broken, source)
      else
        match readGap? (some indent) (steps + 1) gap source with
        | none => none
        | some (gap, source) =>
          if !inFlow && source.column < indent then some ([], gap.broken, source)
          else readPlain? inFlow indent steps gap source
    else if misplacedColon inFlow source.rest then none
    else if endsPlain inFlow source.rest then some ([], gap.broken, source)
    else
      match source.rest with
      | [] => none
      | c :: _ =>
        (readWord steps {} source.skip).map fun (text, broken, source) =>
          (gap.text ++ c :: text, broken, source)

/-- The character that a letter stands for after a backslash. -/
def simpleEscape? : Char → Option Char
  | '0' => some '\x00'
  | 'a' => some '\x07'
  | 'b' => some '\x08'
  | 't' | '\t' => some '\t'
  | 'n' => some '\n'
  | 'v' => some '\x0b'
  | 'f' => some '\x0c'
  | 'r' => some '\r'
  | 'e' => some '\x1b'
  | ' ' => some ' '
  | '"' => some '"'
  | '/' => some '/'
  | '\\' => some '\\'
  | 'N' => some '\u0085'
  | '_' => some '\u00a0'
  | 'L' => some '\u2028'
  | 'P' => some '\u2029'
  | _ => none

/-- The number of hexadecimal digits after a letter that introduces a code
point. -/
def codeDigits? : Char → Option Nat
  | 'x' => some 2
  | 'u' => some 4
  | 'U' => some 8
  | _ => none

/-- One character of a quoted scalar and the number of characters it is written
with.  Nothing stands here for a fault. -/
def quotedChar? (single : Bool) (text : Text) : Option (Char × Nat) :=
  match text with
  | [] => none
  | c :: rest =>
    if single then if c = '\'' then some (c, 2) else some (c, 1)
    else if c = '\\' then
      match rest with
      | [] => none
      | letter :: rest =>
        match codeDigits? letter with
        | none => (simpleEscape? letter).map (·, 2)
        | some count =>
          let digits := rest.take count
          if digits.length < count then none
          else do
            let code ← numberOfDigits? 16 digits
            let c ← charOfCode? code
            return (c, 2 + count)
    else some (c, 1)

/-- The text of a quoted scalar after its opening mark. -/
def readQuoted? (single : Bool) : (steps : Nat) → Source → Option (Text × Source)
  | 0, _ => none
  | steps + 1, source =>
    let mark := if single then '\'' else '"'
    if source.atDocumentMarker then none
    else
      match source.rest with
      | [] => none
      | c :: rest =>
        if c = mark && !(single && rest.head? == some mark) then some ([], source.skip)
        else if !single && c == '\\' && !rest.isEmpty && endsLine rest then
          continueAfter steps { broken := true } source.skip.skipBreak
        else if isBlank c || isBreak c then continueAfter steps {} source
        else
          match quotedChar? single source.rest with
          | none => none
          | some (c, count) =>
            (readQuoted? single steps (source.skip count)).map fun (text, source) =>
              (c :: text, source)
where
  /-- Reads on after a gap. -/
  continueAfter (steps : Nat) (gap : Gap) (source : Source) : Option (Text × Source) :=
    match readGap? none (source.textLength + 1) gap source with
    | none => none
    | some (gap, source) =>
      (readQuoted? single steps source).map fun (text, source) => (gap.text ++ text, source)

/-- What becomes of the line breaks at the end of a block. -/
inductive Chomping
  | strip
  | clip
  | keep
  deriving DecidableEq

/-- Passes over the line breaks before a line of a block.  Without a known
indentation, the first line that is not empty fixes it. -/
def readBlockBreaks? (least : Nat) : (steps : Nat) → (indent : Option Nat) → (deepest : Nat) →
    Text → Source → Option (Nat × Text × Source)
  | 0, _, _, _, _ => none
  | steps + 1, indent, deepest, breaks, source =>
    let spaces := (source.rest.takeWhile (· == ' ')).length
    let spaces :=
      match indent with
      | none => spaces
      | some indent => min spaces (indent - source.column)
    let source := source.skip spaces
    let deepest := max deepest source.column
    if indent.all (source.column < ·) = true ∧ source.rest.head? = some '\t' then none
    else if !source.rest.isEmpty && endsLine source.rest then
      readBlockBreaks? least steps indent deepest (breaks ++ source.breakText) source.skipBreak
    else some (indent.getD (max deepest least), breaks, source)

/-- The lines of a block from a position on, with the break that ends the line
before, the empty lines after that, and whether the line began with a blank. -/
def readBlockLines? (literal : Bool) (chomping : Chomping) (indent : Nat) :
    (steps : Nat) → (ending empties : Text) → (blankBefore : Bool) → Source →
    Option (Text × Source)
  | 0, _, _, _, _ => none
  | steps + 1, ending, empties, blankBefore, source =>
    if source.column = indent ∧ source.rest ≠ [] then
      let blankHere := source.rest.head?.any isBlank
      let joint :=
        if !literal && ending == ['\n'] && !blankBefore && !blankHere then
          if empties = [] then [' '] else empties
        else ending ++ empties
      let line := source.rest.takeWhile fun c => !isBreak c
      let source := source.skip line.length
      let ending := source.breakText
      let source := if source.rest.isEmpty then source else source.skipBreak
      match readBlockBreaks? 0 (source.textLength + 1) (some indent) 0 [] source with
      | none => none
      | some (_, empties, source) =>
        (readBlockLines? literal chomping indent steps ending empties blankHere source).map
          fun (text, source) => (joint ++ line ++ text, source)
    else
      match chomping with
      | .strip => some ([], source)
      | .clip => some (ending, source)
      | .keep => some (ending ++ empties, source)

/-- The chomping and the indentation given in the header of a block. -/
def readBlockHeader? (source : Source) : Option (Chomping × Option Nat × Source) :=
  let chomping? : Char → Option Chomping
    | '+' => some .keep
    | '-' => some .strip
    | _ => none
  let header :=
    match source.rest with
    | first :: second :: _ =>
      match chomping? first, digitValue? 10 first with
      | some chomping, _ =>
        match digitValue? 10 second with
        | some digit => (chomping, some digit, 2)
        | none => (chomping, none, 1)
      | none, some digit =>
        match chomping? second with
        | some chomping => (chomping, some digit, 2)
        | none => (Chomping.clip, some digit, 1)
      | none, none => (Chomping.clip, none, 0)
    | [first] =>
      match chomping? first, digitValue? 10 first with
      | some chomping, _ => (chomping, none, 1)
      | none, some digit => (Chomping.clip, some digit, 1)
      | none, none => (Chomping.clip, none, 0)
    | [] => (Chomping.clip, none, 0)
  let (chomping, digit, count) := header
  if digit = some 0 then none else some (chomping, digit, source.skip count)

/-- The text of a block scalar after its indicator, inside a block indented by
`outer` columns, if it is inside one. -/
def readBlock? (literal : Bool) (outer : Option Nat) (source : Source) :
    Option (Text × Source) := do
  let (chomping, digit, source) ← readBlockHeader? source
  let source ← source.skipLineEnd?
  let indent := digit.map fun digit => outer.getD 0 + digit
  let least := max 1 (match outer with | some outer => outer + 1 | none => 0)
  let (indent, empties, source) ←
    readBlockBreaks? least (source.textLength + 1) indent 0 [] source
  readBlockLines? literal chomping indent (source.textLength + 1) [] empties false source

def natural? (text : Text) : Option Nat :=
  let signless := if text.head? = some '+' then text.tail else text
  let digits (base : Nat) (digits : Text) : Option Nat :=
    (numberOfDigits? base digits).bind fitting?
  match signless with
  | '0' :: 'x' :: rest => digits 16 rest
  | '0' :: 'o' :: rest => digits 8 rest
  | '0' :: 'b' :: rest => digits 2 rest
  | '0' :: _ :: _ => none
  | _ => digits 10 signless

def truth? (text : Text) : Option Bool :=
  if text ∈ [['t', 'r', 'u', 'e'], ['T', 'r', 'u', 'e'], ['T', 'R', 'U', 'E']] then some true
  else if text ∈ [['f', 'a', 'l', 's', 'e'], ['F', 'a', 'l', 's', 'e'], ['F', 'A', 'L', 'S', 'E']]
  then some false
  else none

def isNull (text : Text) : Bool :=
  text ∈ [[], ['~'], ['n', 'u', 'l', 'l'], ['N', 'u', 'l', 'l'], ['N', 'U', 'L', 'L']]

/-- What the tags of the kinds of scalars begin with. -/
def kindTagStart : Text :=
  "tag:yaml.org,2002:".toList

inductive Style
  | plain
  | literal
  /-- In quotation marks or as a folded block. -/
  | quoted
  deriving DecidableEq

/-- The choice that a tag names. -/
def choice? : Text → Option Text
  | ['!'] => some ['!']
  | '!' :: name => some name
  | _ => none

/-- A scalar with all its readings. -/
def scalar (style : Style) (tag? : Option Text) (text : Text) : Scalar :=
  let mayBe (kind : String) : Bool :=
    match style with
    | .plain => true
    | .literal => tag? == some (kindTagStart ++ kind.toList)
    | .quoted => false
  { text? := some text
    bool? := if mayBe "bool" then truth? text else none
    natural? := if mayBe "int" then natural? text else none
    isNull := mayBe "null" && isNull text
    isBlank := style == .plain && text.isEmpty
    choice? := tag?.bind choice? }

end CallMarkup.Data.Yaml
