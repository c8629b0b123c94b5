import CallMarkup.Proofs.Document.Delimiters
import CallMarkup.Proofs.Document.SelfContained
import CallMarkup.Proofs.Processor.RoundTrip

/-!
# Producing one whole unit

What producing writes between the delimiters is self-contained, and values are
neutral in it.  Names of slots are written as they are, though, and a grammar
may have delimiters that are made of letters.  So a produced text is one whole
unit, balanced and matched by its processor, exactly if no name that it is
written with holds an active delimiter.
-/

namespace CallMarkup

namespace Grammar

variable {grammar : Grammar}

/-! ## Names of slots -/

/-- Only delimiters can end a unit inside a text on one line. -/
theorem continuesPast_segments_iff {text : Text}
    (sameLine : grammar.multiline = false → '\n' ∉ text) :
    grammar.ContinuesPast (grammar.segments text) ↔ grammar.delimiters text = [] := by
  rw [delimiters_eq_nil_iff]
  refine forall₂_congr fun segment member => ?_
  have staysOnLine : segment.endsLine grammar = false := by
    cases lines : grammar.multiline with
    | true => simp [Segment.endsLine, lines]
    | false =>
        have different : segment ≠ .plain '\n' := by
          rintro rfl
          exact sameLine lines
            (grammar.mem_iff_mem_segments.mpr ⟨_, member, by simp [Segment.text]⟩)
        simp [Segment.endsLine, different]
  simp [continues, staysOnLine]

theorem newline_not_mem_identifier {text : Text} (identifier : isIdentifier text = true) :
    '\n' ∉ text := by
  intro member
  exact absurd (isWord_of_mem_identifier identifier member) (by decide)

/-! ## Items as they are produced -/

/-- Items that hold an escaped value, the keyword items under an identifier. -/
inductive HoldsEscaped (grammar : Grammar) : Item → Prop
  | positional {value : Text} (sameLine : grammar.multiline = false → '\n' ∉ value) :
      grammar.HoldsEscaped (.positional (grammar.escapeValue true value))
  | keyword {key value : Text} (identifier : isIdentifier key = true)
      (sameLine : grammar.multiline = false → '\n' ∉ value) :
      grammar.HoldsEscaped (.keyword key (grammar.escapeValue false value))

theorem continuesPast_escapeValue (guardAssignment : Bool) {value : Text}
    (sameLine : grammar.multiline = false → '\n' ∉ value) :
    grammar.ContinuesPast (grammar.segments (grammar.escapeValue guardAssignment value)) :=
  ((madeOf_escapeReserved_inert _ sameLine).mono fun _ inert => inert.2).continuesPast

theorem HoldsEscaped.selfContained {item : Item} (holds : grammar.HoldsEscaped item) :
    grammar.SelfContained (grammar.writeItem item) := by
  cases holds with
  | positional => exact (grammar.madeOf_escapeValue true _).selfContained
  | @keyword key value _ _ =>
      have upToAssignment := selfContained_append_outside grammar.escape_ne_assignment.symm
        grammar.assignment_not_mem_delimiters key
      have whole := upToAssignment.append (grammar.madeOf_escapeValue false value).selfContained
      simpa [writeItem] using whole

/-- Of an item only its key can end the unit in which it stands. -/
theorem HoldsEscaped.continuesPast_iff {item : Item} (holds : grammar.HoldsEscaped item) :
    grammar.ContinuesPast (grammar.segments (grammar.writeItem item)) ↔
      ∀ key value, item = .keyword key value → grammar.delimiters key = [] := by
  cases holds with
  | positional sameLine => simp [writeItem, continuesPast_escapeValue true sameLine]
  | @keyword key value identifier sameLine =>
      -- The key may end in an escape character, which takes the operator along.
      have upToAssignment := selfContained_append_outside grammar.escape_ne_assignment.symm
        grammar.assignment_not_mem_delimiters key
      have read : grammar.segments (key ++ grammar.assignment :: grammar.escapeValue false value) =
          grammar.segments (key ++ [grammar.assignment]) ++
            grammar.segments (grammar.escapeValue false value) := by
        simpa using upToAssignment (grammar.escapeValue false value)
      rw [writeItem, read, continuesPast_append,
        continuesPast_append_inert grammar.escape_ne_assignment.symm
          grammar.inertInItem_assignment.2,
        continuesPast_segments_iff fun _ => newline_not_mem_identifier identifier]
      simp [continuesPast_escapeValue false sameLine]

theorem selfContained_writeItems {items : List Item}
    (holds : ∀ item ∈ items, grammar.HoldsEscaped item) :
    grammar.SelfContained
      (items.flatMap fun item => grammar.separator :: grammar.writeItem item) ∧
    (grammar.ContinuesPast (grammar.segments
        (items.flatMap fun item => grammar.separator :: grammar.writeItem item)) ↔
      ∀ key value, .keyword key value ∈ items → grammar.delimiters key = []) := by
  have notEscape := grammar.valid.separator_ne_escape
  have outside := grammar.separator_not_mem_delimiters
  induction items with
  | nil => simp [SelfContained]
  | cons item items ih =>
      obtain ⟨later, laterIff⟩ := ih fun other member => holds other (by simp [member])
      have this := holds item (by simp)
      have separated : grammar.SelfContained (grammar.separator :: grammar.writeItem item) :=
        (selfContained_append_outside notEscape outside []).append this.selfContained
      rw [List.flatMap_cons]
      refine ⟨separated.append later, ?_⟩
      rw [separated, segments_outside notEscape outside, continuesPast_append, continuesPast_cons,
        laterIff, this.continuesPast_iff]
      simp only [continues_plain grammar.inert_separator, true_and, List.mem_cons]
      constructor
      · rintro ⟨here, after⟩ key value (same | member)
        · exact here key value same.symm
        · exact after key value member
      · intro free
        exact ⟨fun key value same => free key value (.inl same.symm),
          fun key value member => free key value (.inr member)⟩

/-- A written unit is whole exactly if no key of its items holds a delimiter. -/
theorem isOneUnit_writeUnit_iff {name : Text} (valid : grammar.nameFault? name = none)
    {items : List Item} (holds : ∀ item ∈ items, grammar.HoldsEscaped item) :
    grammar.IsOneUnit (grammar.writeUnit name items) ↔
      ∀ key value, .keyword key value ∈ items → grammar.delimiters key = [] := by
  obtain ⟨itemsContained, itemsIff⟩ := selfContained_writeItems holds
  have nameMade := madeOf_name_inert valid
  have nameContained := (nameMade.mono fun _ inert => inert.1).selfContained
  have contained : grammar.SelfContained (grammar.writeInner name items) :=
    nameContained.append itemsContained
  rw [writeUnit_eq_delimited, contained.isOneUnit_delimited_iff, writeInner, nameContained,
    continuesPast_append, itemsIff]
  exact and_iff_right nameMade.continuesPast

end Grammar

namespace Processor

variable {State Context : Type} {grammar : Grammar} {name : Text} {slots : List Slot}
  {acceptsContext : Bool} {shape : Shape} {callback : Callback State Context}
  {processor : Processor State Context} {mode : ProductionMode} {positional : List Text}
  {named : List (Text × Text)} {unit : Text}

theorem find_writeUnit_of_isOneUnit (matcher : processor.matcher = .calls name)
    {items : List Item}
    (whole : processor.grammar.IsOneUnit (processor.grammar.writeUnit name items)) :
    ∃ found, processor.find (processor.grammar.writeUnit name items) = [found] ∧
      found.span = ⟨0, byteLength (processor.grammar.writeUnit name items)⟩ := by
  rw [Grammar.writeUnit_eq_delimited] at whole ⊢
  have matched := processor.grammar.argumentsOf?_writeInner name items
  refine ⟨⟨⟨0, _⟩, .delimited (processor.grammar.writeArguments items)⟩, ?_, rfl⟩
  simp [Processor.find, Matcher.find, matcher, Grammar.units_delimited_of_isOneUnit whole, matched]

/-- What is written into a produced text: items of escaped values, the keyword items
for slots that may be left out. -/
theorem exists_items_of_produce (declared : Shape.declare slots acceptsContext = .ok shape)
    (built : Processor.shorthand grammar name shape callback = .ok processor)
    (produced : processor.produce mode positional named = .ok unit) :
    ∃ items, shape.producedItems grammar mode positional named = .ok items ∧
      unit = grammar.writeUnit name items ∧ (∀ item ∈ items, grammar.HoldsEscaped item) ∧
      ∀ key value, .keyword key value ∈ items →
        ∃ slot ∈ slots, slot.isRequired = false ∧ slot.name = key := by
  obtain ⟨wellDeclared, made⟩ := Shape.declare_eq_ok_iff.mp declared
  have fixed : shape.parameters = .fixed slots := by rw [made]
  obtain ⟨-, rfl, rfl, matcher, rfl⟩ := shorthand_eq_ok built
  obtain ⟨items, itemsOk, rfl⟩ := (produce_eq_ok_iff matcher).mp produced
  refine ⟨items, itemsOk, rfl, fun item member => ?_, fun key value member => ?_⟩
  · obtain ⟨slot, slotMember, value, sameLine, rfl | ⟨-, rfl⟩⟩ :=
      Shape.slot_of_mem_producedItems wellDeclared fixed itemsOk member
    · exact .positional sameLine
    · exact .keyword (wellDeclared.identifiers slot slotMember) sameLine
  · obtain ⟨slot, slotMember, written, -, written | ⟨optional, written⟩⟩ :=
      Shape.slot_of_mem_producedItems wellDeclared fixed itemsOk member
    · cases written
    · exact ⟨slot, slotMember, optional, (Item.keyword.inj written).1.symm⟩

/-- A produced text is one whole unit exactly if no key that it is written with
holds an active delimiter.  Then it is balanced, and its processor matches it. -/
theorem produce_isOneUnit_iff (declared : Shape.declare slots acceptsContext = .ok shape)
    (built : Processor.shorthand grammar name shape callback = .ok processor)
    (produced : processor.produce mode positional named = .ok unit) :
    ∃ items, shape.producedItems grammar mode positional named = .ok items ∧
      unit = grammar.writeUnit name items ∧
      (grammar.IsOneUnit unit ↔
        ∀ key value, .keyword key value ∈ items → grammar.delimiters key = []) ∧
      (grammar.IsOneUnit unit → grammar.findImbalance? unit = none ∧
        ∃ found, processor.find unit = [found] ∧ found.span = ⟨0, byteLength unit⟩) := by
  obtain ⟨items, itemsOk, rfl, holds, -⟩ := exists_items_of_produce declared built produced
  obtain ⟨valid, rfl, rfl, matcher, -⟩ := shorthand_eq_ok built
  exact ⟨items, itemsOk, rfl, Grammar.isOneUnit_writeUnit_iff valid holds, fun whole =>
    ⟨Grammar.findImbalance?_of_isOneUnit whole, find_writeUnit_of_isOneUnit matcher whole⟩⟩

/-! ## A slot named like a delimiter -/

/-- Units that a letter closes. -/
def closedByLetter : Grammar :=
  ⟨{ leadIn := ['['], leadOut := ['x'] }, GrammarSpec.fault?_eq_none_iff.mp (by decide)⟩

/-- A processor with a slot whose name is the closing delimiter. -/
def namedLikeDelimiter : Processor Unit Unit where
  name := ['f']
  grammar := closedByLetter
  matcher := .calls ['f']
  shape := { parameters := .fixed [⟨['x'], .named, some ['0']⟩] }
  callback := fun _ => pure []

private theorem namedLikeDelimiter_written :
    Shape.declare [⟨['x'], .named, some ['0']⟩] = .ok namedLikeDelimiter.shape ∧
      Processor.shorthand closedByLetter ['f'] namedLikeDelimiter.shape
        namedLikeDelimiter.callback = .ok namedLikeDelimiter ∧
      namedLikeDelimiter.produce .minimal [] [(['x'], ['1'])] = .ok "[f|x=1x".toList ∧
      namedLikeDelimiter.shape.producedItems closedByLetter .minimal [] [(['x'], ['1'])] =
        .ok [.keyword ['x'] ['1']] ∧
      closedByLetter.delimiters ['x'] = [⟨0, .closing⟩] := by
  refine ⟨by rfl, by rfl, by rfl, by rfl, by cbv⟩

/-- The name closes the unit before its end. -/
theorem namedLikeDelimiter_not_whole :
    Shape.declare [⟨['x'], .named, some ['0']⟩] = .ok namedLikeDelimiter.shape ∧
      Processor.shorthand closedByLetter ['f'] namedLikeDelimiter.shape
        namedLikeDelimiter.callback = .ok namedLikeDelimiter ∧
      namedLikeDelimiter.produce .minimal [] [(['x'], ['1'])] = .ok "[f|x=1x".toList ∧
      ¬ closedByLetter.IsOneUnit "[f|x=1x".toList := by
  obtain ⟨declared, built, produced, itemsOk, delimiters⟩ := namedLikeDelimiter_written
  refine ⟨declared, built, produced, ?_⟩
  obtain ⟨items, sameItems, -, wholeIff, -⟩ := produce_isOneUnit_iff declared built produced
  obtain rfl := Except.ok.inj (itemsOk.symm.trans sameItems)
  intro whole
  have free := wholeIff.mp whole ['x'] ['1'] (by simp)
  simp [delimiters] at free

/-- A produced text need not be one unit, balanced and matched. -/
theorem produce_not_always_whole :
    ¬ ∀ (grammar : Grammar) (name : Text) (slots : List Slot) (shape : Shape)
        (callback : Callback Unit Unit) (processor : Processor Unit Unit)
        (mode : ProductionMode) (positional : List Text) (named : List (Text × Text))
        (unit : Text),
      Shape.declare slots = .ok shape →
      Processor.shorthand grammar name shape callback = .ok processor →
      processor.produce mode positional named = .ok unit →
      grammar.IsOneUnit unit ∧ grammar.findImbalance? unit = none ∧
        ∃ found, processor.find unit = [found] ∧ found.span = ⟨0, byteLength unit⟩ := by
  intro whole
  obtain ⟨declared, built, produced, -, -⟩ := namedLikeDelimiter_written
  obtain ⟨-, balanced, -⟩ := whole _ _ _ _ _ _ _ _ _ _ declared built produced
  have unopened : closedByLetter.findImbalance? "[f|x=1x".toList = some (.unopened ⟨6, 7⟩) := by
    cbv
  exact absurd (unopened.symm.trans balanced) (by simp)

end Processor

end CallMarkup
