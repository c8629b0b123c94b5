import CallMarkup.Regex.Pattern.Escape

/-!
# Bracket expressions

A bracket expression lists characters, ranges, escapes, named sets and further
bracket expressions, and combines such lists by operations on sets.
-/

namespace CallMarkup.Pattern

def readClassItem : Reading Escaped := do
  let c ← take
  if c = '\\' then readEscape else return .literal c

/-- The set that an item of a bracket expression stands for. -/
def itemSet (flags : Flags) : Escaped → Reading CharSet
  | .literal c => do
    demand (flags.unicode || Unicode.isAscii c)
    return .single c
  | .set accepts => return accepts
  | .assertion _ => invalid

/-- The character that an item of a bracket expression stands for. -/
def itemLiteral (flags : Flags) : Escaped → Reading Char
  | .literal c => do
    demand (flags.unicode || Unicode.isAscii c)
    return c
  | _ => invalid

/-- Reads an item or a range of a bracket expression. -/
def readClassRange : Reading CharSet := do
  let flags := (← get).flags
  let first ← readClassItem
  skipBlanks
  let c ← current
  let afterHyphen := (dropIf flags (← get).rest.tail).head?
  if c != '-' || afterHyphen == some ']' || afterHyphen == some '-' then itemSet flags first
  else
    bumpSkip
    let last ← readClassItem
    let first ← itemLiteral flags first
    let last ← itemLiteral flags last
    demand (first ≤ last)
    return .range first last
where
  /-- What follows blanks, where they mean nothing. -/
  dropIf (flags : Flags) (text : Text) : Text :=
    if flags.verbose then dropBlanks false text else text

/-- Reads a named ASCII set such as `[:digit:]`, if there is one.  Its opening
bracket is still to be read. -/
def readNamedSet? : Reading (Option CharSet) := do
  let start ← get
  let flags := start.flags
  if ← accept ['[', ':'] then
    let negated ← accept ['^']
    let rest := (← get).rest
    let name := rest.takeWhile (· != ':')
    match afterStart? [':', ']'] (rest.drop name.length), CharSet.ofAsciiName? (String.ofList name) with
    | some after, some accepts =>
      set { start with rest := after }
      return some (← negate flags negated (foldCase flags accepts))
    | _, _ =>
      set start
      return none
  else return none

/-- Operations between parts of a bracket expression. -/
inductive SetOperation
  | inter
  | diff
  | symmDiff

/-- Items of a bracket expression: their union, and the depth of each. -/
structure ClassItems where
  union : CharSet := .empty
  depths : List Nat := []

def ClassItems.add (items : ClassItems) (set : CharSet) (depth : Nat) : ClassItems :=
  ⟨items.union.union set, depth :: items.depths⟩

/-- Applies a pending operation, with the set on its left, to the items on its
right. -/
def applyPending (flags : Flags) (pending : Option (Nested CharSet × SetOperation))
    (items : ClassItems) : Nested CharSet :=
  let right : Nested CharSet := ⟨items.union, listDepth items.depths⟩
  match pending with
  | none => right
  | some (left, operation) =>
    let leftSet := foldCase flags left.value
    let rightSet := foldCase flags right.value
    let result :=
      match operation with
      | .inter => leftSet.inter rightSet
      | .diff => leftSet.diff rightSet
      | .symmDiff => leftSet.symmDiff rightSet
    ⟨result, max left.depth right.depth + 1⟩

/-- Reads the beginning of a bracket expression: whether it is negated, and the
hyphens or the closing bracket that stand for themselves there. -/
def readClassStart : Reading (Bool × ClassItems) := do
  bumpSkip
  let negated := (← current) == '^'
  if negated then bumpSkip
  let items ← readHyphens (← fuel) {}
  let c ← current
  if c = ']' && items.depths.isEmpty then
    bumpSkip
    discard current
    return (negated, items.add (.single ']') 0)
  return (negated, items)
where
  /-- Reads hyphens. -/
  readHyphens : Nat → ClassItems → Reading ClassItems
    | 0, items => return items
    | steps + 1, items => do
      if (← current) = '-' then
        bumpSkip
        discard current
        readHyphens steps (items.add (.single '-') 0)
      else return items

/-- Reads the rest of a bracket expression, given the operation pending and the
items read since. -/
def readClassRest (negated : Bool) :
    (steps : Nat) → Option (Nested CharSet × SetOperation) → ClassItems → Reading (Nested CharSet)
  | 0, _, _ => invalid
  | steps + 1, pending, items => do
    skipBlanks
    let flags := (← get).flags
    let c ← current
    let second ← peekSecond?
    if c = '[' then
      match ← readNamedSet? with
      | some named => readClassRest negated steps pending (items.add named 0)
      | none =>
        let (innerNegated, start) ← readClassStart
        let inner ← readClassRest innerNegated steps none start
        readClassRest negated steps pending (items.add inner.value inner.depth)
    else if c = ']' then
      bump
      let content := applyPending flags pending items
      let set ← negate flags negated (foldCase flags content.value)
      return ⟨set, content.depth + 1⟩
    else if c = '&' && second == some '&' then
      discard (accept ['&', '&'])
      readClassRest negated steps (some (applyPending flags pending items, .inter)) {}
    else if c = '-' && second == some '-' then
      discard (accept ['-', '-'])
      readClassRest negated steps (some (applyPending flags pending items, .diff)) {}
    else if c = '~' && second == some '~' then
      discard (accept ['~', '~'])
      readClassRest negated steps (some (applyPending flags pending items, .symmDiff)) {}
    else
      let item ← readClassRange
      readClassRest negated steps pending (items.add item 0)

def readClass : Reading (Nested CharSet) := do
  let (negated, start) ← readClassStart
  readClassRest negated (← fuel) none start

end CallMarkup.Pattern
