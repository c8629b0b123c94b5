import CallMarkup.Config.Basic
import CallMarkup.Data.Json
import CallMarkup.Data.Yaml.Stream

/-!
# Reading configurations

A configuration is a record of records.  Its fields may come in any order, each
at most once, and unknown fields are refused.  In JSON a record may also be a
sequence of its first fields, and a choice may be a mapping from its name to
null; in YAML a record may be left blank, and a choice may be null with its name
as a tag.  Anything may be an alias of a node that was read before.  A grammar is
checked as soon as it has been read, so of two faults in a text the earlier one
is reported.
-/

namespace CallMarkup

open Data (Event Scalar Stream)

namespace Config

/-- A step of reading the events of a text. -/
abbrev Reading := EStateM ConfigFault Stream

def next : Reading Event := do
  let stream ← get
  match stream.events with
  | [] => throw .malformed
  | event :: events =>
    set { stream with events }
    return event

/-- Reads a node, which may be one that an alias stands for. -/
def readNode {α : Type} (read : Reading α) : Reading α := do
  let stream ← get
  match stream.events with
  | .alias number :: events =>
    set { stream with events := stream.node number }
    let value ← read
    set { stream with events }
    return value
  | _ => read

/-- A reading of the next scalar, which must have one. -/
def readScalar {α : Type} (reading : Scalar → Option α) : Reading α :=
  readNode do
    match ← next with
    | .scalar scalar =>
      match reading scalar with
      | some value => return value
      | none => throw .malformed
    | _ => throw .malformed

def readText : Reading Text :=
  readScalar (·.text?)

def readChar : Reading Char :=
  readScalar fun scalar =>
    match scalar.text? with
    | some [c] => some c
    | _ => none

def readBool : Reading Bool :=
  readScalar (·.bool?)

def readNatural : Reading Nat :=
  readScalar (·.natural?)

/-- Reads one of several named values. -/
def readChoice {α : Type} (format : ConfigFormat) (choices : List (String × α)) : Reading α := do
  let named (name : Text) : Option α := choices.lookup (String.ofList name)
  let choose (scalar : Scalar) : Option α :=
    match scalar.choice? with
    | some name => if scalar.isNull then named name else none
    | none => scalar.text?.bind named
  let stream ← get
  match format, stream.events with
  | .json, .openMapping :: events =>
    set { stream with events }
    let value ← readScalar choose
    readScalar fun scalar => if scalar.isNull then some () else none
    if (← next) = .closeMapping then return value else throw .malformed
  | _, _ => readScalar choose

/-- A field of a record: its name and how to read its value into the record. -/
structure Field (Record : Type) where
  name : String
  read : Record → Reading Record

/-- Reads the fields of a sequence in their order, up to its end. -/
def readInOrder {Record : Type} : List (Field Record) → Record → Reading Record
  | [], record => do
    if (← next) = .closeSequence then return record else throw .malformed
  | field :: fields, record => do
    let stream ← get
    match stream.events with
    | .closeSequence :: events =>
      set { stream with events }
      return record
    | _ => readInOrder fields (← field.read record)

/-- Reads the entries of a mapping, of which there are at most `steps`, up to
its end.  No field is read twice. -/
def readByName {Record : Type} : (steps : Nat) → (unread : List (Field Record)) → Record →
    Reading Record
  | 0, _, record => do
    if (← next) = .closeMapping then return record else throw .malformed
  | steps + 1, unread, record => do
    let stream ← get
    match stream.events with
    | .closeMapping :: events =>
      set { stream with events }
      return record
    | _ =>
      let name ← readText
      match unread.find? (·.name.toList = name) with
      | some field =>
        let record ← field.read record
        readByName steps (unread.filter (·.name ≠ field.name)) record
      | none => throw .malformed

/-- Reads a record, from its default. -/
def readRecord {Record : Type} (format : ConfigFormat) (fields : List (Field Record))
    (record : Record) : Reading Record :=
  readNode do
    match format, ← next with
    | .json, .openSequence => readInOrder fields record
    | _, .openMapping => readByName fields.length fields record
    | .yaml, .scalar scalar => if scalar.isBlank then return record else throw .malformed
    | _, _ => throw .malformed

def grammarFields : List (Field GrammarSpec) :=
  [⟨"lead_in", fun spec => return { spec with leadIn := ← readText }⟩,
    ⟨"lead_out", fun spec => return { spec with leadOut := ← readText }⟩,
    ⟨"separator", fun spec => return { spec with separator := ← readChar }⟩,
    ⟨"assignment", fun spec => return { spec with assignment := ← readChar }⟩,
    ⟨"escape", fun spec => return { spec with escape := ← readChar }⟩,
    ⟨"multiline", fun spec => return { spec with multiline := ← readBool }⟩]

def policyNames : List (String × MalformedPolicy) :=
  [("propagate", .propagate), ("leave_verbatim", .leaveVerbatim)]

def optionFields (format : ConfigFormat) : List (Field SubstitutionOptions) :=
  [⟨"recursive", fun options => return { options with recursive := ← readBool }⟩,
    ⟨"max_passes", fun options => return { options with maxPasses := ← readNatural }⟩,
    ⟨"strict_convergence", fun options =>
      return { options with strictConvergence := ← readBool }⟩,
    ⟨"malformed", fun options =>
      return { options with malformed := ← readChoice format policyNames }⟩,
    ⟨"check_balance", fun options => return { options with checkBalance := ← readBool }⟩]

def readGrammar (format : ConfigFormat) : Reading Grammar := do
  let spec ← readRecord format grammarFields {}
  match spec.validate with
  | .ok grammar => return grammar
  | .error fault => throw (.grammar fault)

def fields (format : ConfigFormat) : List (Field Config) :=
  [⟨"grammar", fun config => return { config with grammar := ← readGrammar format }⟩,
    ⟨"substitution", fun config =>
      return { config with substitution := ← readRecord format (optionFields format) {} }⟩]

/-- Reads a configuration from the events of a text, which must describe
nothing else. -/
def ofStream (format : ConfigFormat) (stream : Stream) : Except ConfigFault Config :=
  match (readRecord format (fields format) {}).run stream with
  | .error fault _ => .error fault
  | .ok config rest =>
    if rest.events = [] ∧ rest.complete then .ok config else .error .malformed

/-- Reads a configuration from a text.  A blank text in YAML is the empty
configuration. -/
def ofText (format : ConfigFormat) (text : Text) : Except ConfigFault Config :=
  match format with
  | .json => ofStream .json (Data.Json.stream text)
  | .yaml =>
    if text.all Unicode.isWhiteSpace then .ok {} else ofStream .yaml (Data.Yaml.stream text)

end Config

end CallMarkup
