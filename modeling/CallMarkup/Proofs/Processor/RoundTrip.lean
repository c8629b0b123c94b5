import CallMarkup.Proofs.Call.Agreement
import CallMarkup.Proofs.Processor.Matching

/-!
# Producing and matching again

A unit that a processor produces is matched by the same processor wherever it
is written, and its arguments bind to the call that it was produced for.  Two
things could spoil this: identifiers that contain the escape character, and
names of slots that contain a reserved character.  Neither occurs in the
default grammar.
-/

namespace CallMarkup

namespace Grammar

/-- Whether the names of slots that can be written stand for themselves. -/
structure KeepsNames (grammar : Grammar) (slots : List Slot) : Prop where
  escape_not_word : Unicode.isWord grammar.escape = false
  free : ∀ slot ∈ slots, slot.kind ≠ .required → ∀ c ∈ slot.name, grammar.isReserved c = false

private theorem default_isReserved_of_isWord {c : Char} (word : Unicode.isWord c = true) :
    Grammar.default.isReserved c = false := by
  cases reserved : Grammar.default.isReserved c with
  | false => rfl
  | true =>
      have symbol : (((c = '\\' ∨ c = '|') ∨ c = '=') ∨ c = '{') ∨ c = '}' := by
        simpa [isReserved, Grammar.default] using reserved
      rcases symbol with (((rfl | rfl) | rfl) | rfl) | rfl <;> exact absurd word (by decide)

theorem keepsNames_default {slots : List Slot} (declared : WellDeclared slots) :
    Grammar.default.KeepsNames slots where
  escape_not_word := by decide
  free := fun slot member _ _ inName =>
    default_isReserved_of_isWord (isWord_of_mem_identifier (declared.identifiers slot member) inName)

/-- What a written unit has after the separator that ends its name. -/
def writeArguments (grammar : Grammar) : List Item → Option Text
  | [] => none
  | first :: later => some (grammar.writeItem first ++
      later.flatMap fun item => grammar.separator :: grammar.writeItem item)

theorem argumentsOf?_writeInner (grammar : Grammar) (name : Text) (items : List Item) :
    Matcher.argumentsOf? grammar.separator name (grammar.writeInner name items) =
      some (grammar.writeArguments items) := by
  cases items with
  | nil => exact Matcher.argumentsOf?_eq_some_iff.mpr (.inl ⟨rfl, by simp [writeInner]⟩)
  | cons first later => exact Matcher.argumentsOf?_eq_some_iff.mpr (.inr ⟨_, rfl, rfl⟩)

/-- The arguments of a written unit read back as its items. -/
theorem items_writeArguments {grammar : Grammar} {items : List Item}
    (writable : ∀ item ∈ items, grammar.Writable item) :
    grammar.items (grammar.writeArguments items) = items := by
  cases items with
  | nil => rfl
  | cons first later => exact items_writeItem writable

end Grammar

namespace Processor

variable {State Context : Type} {grammar : Grammar} {name : Text} {slots : List Slot}
  {acceptsContext : Bool} {shape : Shape} {callback : Callback State Context}
  {processor : Processor State Context} {mode : ProductionMode} {positional : List Text}
  {named : List (Text × Text)} {unit : Text}

theorem produce_eq_ok_iff (matcher : processor.matcher = .calls name) :
    processor.produce mode positional named = .ok unit ↔
      ∃ items, processor.shape.producedItems processor.grammar mode positional named = .ok items ∧
        unit = processor.grammar.writeUnit processor.name items := by
  simp only [Processor.produce, matcher, Shape.produce]
  cases processor.shape.producedItems processor.grammar mode positional named with
  | error fault => simp [Except.map]
  | ok items => simp [Except.map, eq_comm]

/-- A written unit is matched where it stands, between the matches before it and
those after it. -/
theorem find_writeUnit (matcher : processor.matcher = .calls name)
    (valid : processor.grammar.nameFault? name = none) {items : List Item}
    (writable : ∀ item ∈ items, processor.grammar.Writable item) {before : Text}
    (ends : processor.grammar.EndsPlainly before) (after : Text) :
    ∃ arguments earlier later, processor.grammar.items arguments = items ∧
      processor.find (before ++ processor.grammar.writeUnit name items ++ after) =
        earlier ++ ⟨⟨byteLength before, byteLength before +
          byteLength (processor.grammar.writeUnit name items)⟩, .delimited arguments⟩ :: later ∧
      (before = [] → earlier = []) ∧ (after = [] → later = []) := by
  have inside := Grammar.madeOf_writeInner (Grammar.madeOf_name_inert valid) writable
  have units := Grammar.units_append_delimited ends inside after
  have matched := processor.grammar.argumentsOf?_writeInner name items
  let foundAt (unit : CallUnit) : Option Found :=
    (Matcher.argumentsOf? processor.grammar.separator name unit.inner).map fun arguments =>
      ⟨unit.span, .delimited arguments⟩
  refine ⟨_, (processor.grammar.units before).filterMap foundAt,
    (processor.grammar.unitsFrom (byteLength before +
      byteLength (processor.grammar.writeUnit name items))
        (processor.grammar.segments after)).filterMap foundAt,
    Grammar.items_writeArguments writable, ?_, ?_, ?_⟩
  · rw [Grammar.writeUnit_eq_delimited, Processor.find, matcher]
    simp only [Matcher.find, units, List.filterMap_append, List.filterMap_cons, matched,
      Option.map_some]
    rfl
  · rintro rfl
    simp [Grammar.units, Grammar.unitsFrom]
  · rintro rfl
    simp [Grammar.unitsFrom]

/-- A produced unit is matched where it stands, and binds to the call that gives
every slot the value supplied for it, or else its default. -/
theorem find_bind_produce (declared : Shape.declare slots acceptsContext = .ok shape)
    (built : Processor.shorthand grammar name shape callback = .ok processor)
    (keeps : grammar.KeepsNames slots)
    (produced : processor.produce mode positional named = .ok unit) :
    (∀ before after, grammar.EndsPlainly before →
      ∃ found ∈ processor.find (before ++ unit ++ after),
        found.span = ⟨byteLength before, byteLength before + byteLength unit⟩ ∧
        processor.bind found = .ok (shape.callOf (shape.supplied positional named))) ∧
      ∃ found, processor.find unit = [found] := by
  obtain ⟨wellDeclared, made⟩ := Shape.declare_eq_ok_iff.mp declared
  have fixed : shape.parameters = .fixed slots := by rw [made]
  obtain ⟨valid, rfl, rfl, matcher, rfl⟩ := shorthand_eq_ok built
  obtain ⟨items, itemsOk, rfl⟩ := (produce_eq_ok_iff matcher).mp produced
  have bound := Shape.bind_producedItems wellDeclared fixed itemsOk
  have writable := Shape.writable_producedItems wellDeclared fixed keeps.escape_not_word
    (fun slot member optional => keeps.free slot member (by simpa [Slot.isRequired] using optional))
    itemsOk
  constructor
  · intro before after ends
    obtain ⟨arguments, earlier, later, read, found, -⟩ :=
      find_writeUnit matcher valid writable ends after
    refine ⟨⟨⟨_, _⟩, .delimited arguments⟩, ?_, rfl, ?_⟩
    · rw [found]
      simp
    · simp only [Processor.bind]
      rw [read]
      exact bound
  · obtain ⟨arguments, earlier, later, -, found, noneEarlier, noneLater⟩ :=
      find_writeUnit matcher valid writable processor.grammar.endsPlainly_nil []
    simp only [noneEarlier, noneLater, List.nil_append, List.append_nil] at found
    exact ⟨_, found⟩

/-! ## An attack -/

/-- To hit, damage, reach and defense. -/
def attackSlots : List Slot :=
  [⟨['h', 'i', 't'], .required, none⟩, ⟨['d', 'a', 'm'], .optional, some ['0']⟩,
    ⟨['r', 'e', 'a'], .optional, some ['5']⟩, ⟨['d', 'e', 'f'], .named, some []⟩]

/-- A processor for attacks that writes nothing. -/
def attack : Processor Unit Unit where
  name := ['a', 't', 't']
  grammar := Grammar.default
  matcher := .calls ['a', 't', 't']
  shape := { parameters := .fixed attackSlots }
  callback := fun _ => pure []

/-- The value that reads as a keyword item is guarded, the damage is left out,
and the reach after this gap is written by name. -/
theorem attack_found :
    Shape.declare attackSlots = .ok attack.shape ∧
      Processor.shorthand Grammar.default ['a', 't', 't'] attack.shape attack.callback =
        .ok attack ∧
      attack.produce .minimal [['k', '=', '1'], ['0']] [(['r', 'e', 'a'], ['=', '\x7d'])] =
        .ok "\x7b\x7batt|k\\=1|rea==\\\x7d\x7d\x7d".toList ∧
      ∃ found ∈ attack.find
          ("\x7b\x7b ".toList ++ "\x7b\x7batt|k\\=1|rea==\\\x7d\x7d\x7d".toList ++
            "\x7d\x7d".toList),
        found.span = ⟨3, 23⟩ ∧
        attack.bind found = .ok
          ⟨[⟨['h', 'i', 't'], some ['k', '=', '1']⟩, ⟨['d', 'a', 'm'], some ['0']⟩,
            ⟨['r', 'e', 'a'], some ['=', '\x7d']⟩], [⟨['d', 'e', 'f'], some []⟩]⟩ := by
  have declared : Shape.declare attackSlots = .ok attack.shape := by rfl
  have wellDeclared := (Shape.declare_eq_ok_iff.mp declared).1
  have built : Processor.shorthand Grammar.default ['a', 't', 't'] attack.shape
      attack.callback = .ok attack := by rfl
  have produced : attack.produce .minimal [['k', '=', '1'], ['0']]
      [(['r', 'e', 'a'], ['=', '\x7d'])] =
        .ok "\x7b\x7batt|k\\=1|rea==\\\x7d\x7d\x7d".toList := by rfl
  exact ⟨declared, built, produced,
    (find_bind_produce declared built (Grammar.keepsNames_default wellDeclared) produced).1
      "\x7b\x7b ".toList "\x7d\x7d".toList (by simp [Grammar.EndsPlainly]; decide)⟩

end Processor

end CallMarkup
