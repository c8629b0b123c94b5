import CallMarkup.Data.Yaml.Anchor
import CallMarkup.Data.Yaml.Token

/-!
# YAML documents

Reads a YAML text as a stream of events.  Directives come before the mark of
the document.  A node that the text leaves out is a blank scalar, also where it
has an anchor or a tag.  The documents of interest consist of mappings and
scalars, so the events stop at the first sequence.
-/

namespace CallMarkup.Data.Yaml

/-- What the reader of tokens is about to meet. -/
inductive Expected
  /-- A node, in a block or in a flow collection. -/
  | node (inBlock : Bool)
  | blockKey
  | blockValue
  | firstFlowKey
  | flowKey
  | flowValue
  /-- The value of a flow key that stands alone. -/
  | noFlowValue
  deriving DecidableEq

/-- A place that the text leaves empty. -/
def blank : Event :=
  .scalar (scalar .plain none [])

/-- The handles of tags, with the texts that they stand for. -/
abbrev Handles := List (Text × Option Text)

/-- The handles that need no directive. -/
def commonHandles : Handles :=
  [(['!'], some ['!']), (['!', '!'], some kindTagStart)]

/-- The text of a tag, unless its octets encode none.  Only the handles given
may be used. -/
def Tag.text? (handles : Handles) (tag : Tag) : Option (Option Text) :=
  if tag.handle = [] then some tag.suffix?
  else
    (handles.lookup tag.handle).map fun start? => do
      let start ← start?
      let suffix ← tag.suffix?
      return start ++ suffix

/-- The handles that directives define, and what follows the directives.  No
handle is defined twice and no version is given twice. -/
def splitDirectives? : (versioned : Bool) → Handles → List Token →
    Option (Handles × List Token)
  | versioned, handles, .directive (.version major minor) :: tokens =>
    if versioned || major ≠ 1 || (minor ≠ 1 && minor ≠ 2) then none
    else splitDirectives? true handles tokens
  | versioned, handles, .directive (.handle name start?) :: tokens =>
    if (handles.lookup name).isSome then none
    else splitDirectives? versioned ((name, start?) :: handles) tokens
  | _, handles, tokens => some (handles ++ commonHandles, tokens)

/-- The anchor and the tag of a node, in either order, and what follows them. -/
def splitProperties : List Token → Option Text × Option Tag × List Token
  | .anchor name :: .tag tag :: tokens => (some name, some tag, tokens)
  | .tag tag :: .anchor name :: tokens => (some name, some tag, tokens)
  | .anchor name :: tokens => (some name, none, tokens)
  | .tag tag :: tokens => (none, some tag, tokens)
  | tokens => (none, none, tokens)

/-- The tokens after a document, when nothing else follows it. -/
def endsStream : List Token → Bool
  | [.streamEnd] => true
  | .documentEnd :: tokens => endsStream tokens
  | _ => false

/-- What a document announces that uses the given handles. -/
def outline (handles : Handles) : (steps : Nat) → List Expected → List Token → Outline
  | 0, _, _ => .broken
  | _, [], tokens => ⟨[], endsStream tokens⟩
  | steps + 1, .node _ :: pending, .alias name :: tokens =>
    (outline handles steps pending tokens).cons (.alias name)
  | steps + 1, .node inBlock :: pending, tokens =>
    let (anchor?, tag?, tokens) := splitProperties tokens
    match tag?.elim (some none) (·.text? handles) with
    | none => .broken
    | some tagText? =>
      match inBlock, tokens with
      | _, .scalar style text :: tokens =>
        let read := scalar style (tagText?.filter (· ≠ ['!'])) text
        (outline handles steps pending tokens).cons (.event anchor? (.scalar read))
      | _, .flowMappingStart :: tokens =>
        (outline handles steps (.firstFlowKey :: pending) tokens).cons (.event anchor? .openMapping)
      | true, .blockMappingStart :: tokens =>
        (outline handles steps (.blockKey :: pending) tokens).cons (.event anchor? .openMapping)
      | _, .flowSequenceStart :: _ => .broken
      | true, .blockSequenceStart :: _ => .broken
      | true, .blockEntry :: _ => .broken
      | _, [] => .broken
      | _, tokens =>
        if anchor?.isSome || tag?.isSome then
          let read := scalar .plain tagText? []
          (outline handles steps pending tokens).cons (.event anchor? (.scalar read))
        else .broken
  | steps + 1, .blockKey :: pending, tokens =>
    match tokens with
    | .key :: .key :: _ | .key :: .value :: _ | .key :: .blockEnd :: _ =>
      (outline handles steps (.blockValue :: pending) tokens.tail).consEvent blank
    | [.key] => .broken
    | .key :: tokens => outline handles steps (.node true :: .blockValue :: pending) tokens
    | .blockEnd :: tokens => (outline handles steps pending tokens).consEvent .closeMapping
    | _ => .broken
  | steps + 1, .blockValue :: pending, tokens =>
    match tokens with
    | .value :: .key :: _ | .value :: .value :: _ | .value :: .blockEnd :: _ =>
      (outline handles steps (.blockKey :: pending) tokens.tail).consEvent blank
    | [.value] | [] => .broken
    | .value :: tokens => outline handles steps (.node true :: .blockKey :: pending) tokens
    | tokens => (outline handles steps (.blockKey :: pending) tokens).consEvent blank
  | steps + 1, .firstFlowKey :: pending, tokens => flowKey steps pending tokens
  | steps + 1, .flowKey :: pending, tokens =>
    match tokens with
    | .flowEntry :: tokens => flowKey steps pending tokens
    | .flowMappingEnd :: _ => flowKey steps pending tokens
    | _ => .broken
  | steps + 1, .flowValue :: pending, tokens =>
    match tokens with
    | .value :: .flowEntry :: _ | .value :: .flowMappingEnd :: _ =>
      (outline handles steps (.flowKey :: pending) tokens.tail).consEvent blank
    | [.value] | [] => .broken
    | .value :: tokens => outline handles steps (.node false :: .flowKey :: pending) tokens
    | tokens => (outline handles steps (.flowKey :: pending) tokens).consEvent blank
  | steps + 1, .noFlowValue :: pending, tokens =>
    match tokens with
    | [] => .broken
    | tokens => (outline handles steps (.flowKey :: pending) tokens).consEvent blank
where
  /-- Reads a key of a flow mapping or the end of the mapping. -/
  flowKey (steps : Nat) (pending : List Expected) (tokens : List Token) : Outline :=
    match tokens with
    | .key :: .value :: _ | .key :: .flowEntry :: _ | .key :: .flowMappingEnd :: _ =>
      (outline handles steps (.flowValue :: pending) tokens.tail).consEvent blank
    | [.key] | [] => .broken
    | .key :: tokens => outline handles steps (.node false :: .flowValue :: pending) tokens
    | .flowMappingEnd :: tokens => (outline handles steps pending tokens).consEvent .closeMapping
    | tokens => outline handles steps (.node false :: .noFlowValue :: pending) tokens

/-- What the first document of a text announces.  A text without a document is
one that leaves its document empty. -/
def documentOutline (tokens : List Token) : Outline :=
  let steps := 4 * tokens.length + 8
  match tokens with
  | [.streamEnd] => Outline.consEvent blank ⟨[], true⟩
  | .documentStart :: _ | .directive _ :: _ =>
    match splitDirectives? false [] tokens with
    | some (handles, .documentStart :: tokens) =>
      match tokens with
      | .documentStart :: _ | .documentEnd :: _ | .directive _ :: _ | .streamEnd :: _ =>
        Outline.consEvent blank ⟨[], endsStream tokens⟩
      | _ => outline handles steps [.node true] tokens
    | _ => .broken
  | tokens => outline commonHandles steps [.node true] tokens

def stream (text : Text) : Stream :=
  (documentOutline (tokens text)).stream

end CallMarkup.Data.Yaml
