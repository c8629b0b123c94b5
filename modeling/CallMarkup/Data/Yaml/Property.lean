import CallMarkup.Data.Yaml.Source

/-!
# YAML properties and directives

A node may have an anchor, by which aliases refer to it, and a tag, which says
what it is.  A tag is a handle and a suffix, and directives at the beginning of
a document define handles.  Tags are made of octets, which percent signs
introduce where no character is written for them.
-/

namespace CallMarkup.Data.Yaml

/-- Characters of the names of anchors, handles and directives. -/
def isNameChar (c : Char) : Bool :=
  c.isAlphanum || c == '-' || c == '_'

/-- Characters of tags.  The marks of flow collections are among them only in
a tag that is written in full. -/
def isTagChar (inFull : Bool) (c : Char) : Bool :=
  isNameChar c ||
    [';', '/', '?', ':', '@', '&', '=', '+', '$', '.', '%', '!', '~', '*', '\'', '(', ')'].contains c ||
    (inFull && [',', '[', ']'].contains c)

def readName (source : Source) : Text × Source :=
  let name := source.rest.takeWhile isNameChar
  (name, source.skip name.length)

def readAnchor? (source : Source) : Option (Text × Source) :=
  let (name, source) := readName source
  let ends := endsWord source.rest ||
    source.rest.head?.any ['?', ':', ',', ']', '\x7d', '%', '@', '\x60'].contains
  if name ≠ [] ∧ ends then some (name, source) else none

/-- The number of octets of the character that an octet begins. -/
def octetCount? (octet : Nat) : Option Nat :=
  if octet < 0x80 then some 1
  else if octet < 0xC0 then none
  else if octet < 0xE0 then some 2
  else if octet < 0xF0 then some 3
  else if octet < 0xF8 then some 4
  else none

/-- The octets that characters of a tag stand for, when `missing` octets of a
character are still to come. -/
def octets? : (missing : Nat) → Text → Option (List Nat)
  | 0, [] => some []
  | 0, '%' :: high :: low :: rest => do
    let octet ← numberOfDigits? 16 [high, low]
    let count ← octetCount? octet
    return octet :: (← octets? (count - 1) rest)
  | 0, c :: rest => if c = '%' then none else (octets? 0 rest).map (c.toNat :: ·)
  | missing + 1, '%' :: high :: low :: rest => do
    let octet ← numberOfDigits? 16 [high, low]
    if octet / 0x40 = 2 then return octet :: (← octets? missing rest) else none
  | _ + 1, _ => none

/-- The text that octets encode, if they do, up to the first null. -/
def textOfOctets? (octets : List Nat) : Option Text :=
  let octets := (octets.takeWhile (· ≠ 0)).map UInt8.ofNat
  (String.fromUTF8? ⟨octets.toArray⟩).map String.toList

/-- Reads characters of a tag.  They may encode no text. -/
def readTagText? (inFull : Bool) (source : Source) : Option (Option Text × Source) := do
  let chars := source.rest.takeWhile (isTagChar inFull)
  let octets ← octets? 0 chars
  return (textOfOctets? octets, source.skip chars.length)

def readTagPart? (inFull : Bool) (source : Source) : Option (Option Text × Source) :=
  if source.rest.head?.any (isTagChar inFull) then readTagText? inFull source else none

/-- A tag as it is written.  One without a handle is written in full. -/
structure Tag where
  handle : Text
  /-- The text after the handle, unless its octets encode none. -/
  suffix? : Option Text
  deriving DecidableEq

/-- Reads a tag from its mark on.  A mark alone is a tag written in full. -/
def readTag? (inFlow : Bool) (source : Source) : Option (Tag × Source) := do
  let (tag, source) ←
    if source.rest.tail.head? = some '<' then do
      let (suffix?, source) ← readTagPart? true (source.skip 2)
      if source.rest.head? = some '>' then some (⟨[], suffix?⟩, source.skip) else none
    else
      let (name, afterName) := readName source.skip
      if afterName.rest.head? = some '!' then
        (readTagPart? false afterName.skip).map fun (suffix?, source) =>
          (⟨'!' :: name ++ ['!'], suffix?⟩, source)
      else
        (readTagText? false source.skip).map fun (suffix?, source) =>
          (if suffix? = some [] then ⟨[], some ['!']⟩ else ⟨['!'], suffix?⟩, source)
  if endsWord source.rest || (inFlow && source.rest.head? == some ',') then some (tag, source)
  else none

/-- What a line before a document says about it. -/
inductive Directive
  | version (major minor : Nat)
  /-- The handle of tags that begin with a text. -/
  | handle (name : Text) (start? : Option Text)
  deriving DecidableEq

def readVersionNumber? (source : Source) : Option (Nat × Source) :=
  let digits := source.rest.takeWhile Char.isDigit
  if 9 < digits.length then none
  else (numberOfDigits? 10 digits).map (·, source.skip digits.length)

def readVersion? (source : Source) : Option (Directive × Source) := do
  let (major, source) ← readVersionNumber? source
  if source.rest.head? = some '.' then
    let (minor, source) ← readVersionNumber? source.skip
    return (.version major minor, source)
  else none

/-- Reads the value of a directive that defines a handle. -/
def readHandle? (source : Source) : Option (Directive × Source) :=
  if source.rest.head? = some '!' then do
    let (name, source) := readName source.skip
    let (handle, source) ←
      if source.rest.head? = some '!' then some ('!' :: name ++ ['!'], source.skip)
      else if name = [] then some (['!'], source)
      else none
    if source.rest.head?.any isBlank then
      let (start?, source) ← readTagPart? true (source.skipWhile isBlank)
      if endsWord source.rest then return (.handle handle start?, source) else none
    else none
  else none

def readDirective? (source : Source) : Option (Directive × Source) := do
  let (name, source) := readName source.skip
  if endsWord source.rest then
    let source := source.skipWhile isBlank
    let (directive, source) ←
      if name = ['Y', 'A', 'M', 'L'] then readVersion? source
      else if name = ['T', 'A', 'G'] then readHandle? source
      else none
    return (directive, ← source.skipLineEnd?)
  else none

end CallMarkup.Data.Yaml
