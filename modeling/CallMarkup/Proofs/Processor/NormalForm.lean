import CallMarkup.Proofs.Call.Minimal
import CallMarkup.Proofs.Processor.RoundTrip

/-!
# Normal forms of units

Many units denote one call: a unit may escape more than it needs, write defaults,
or give optional values by name that have a position.  Minimal production writes
the same text for all of them, since what it writes depends only on the call
(`written_minimal_eq`).  This text is a unit for the call again, so units for
different calls have different normal forms.
-/

namespace CallMarkup

/-- The values that a call has for some slots, by name. -/
def BoundCall.entriesFor (call : BoundCall) (slots : List Slot) : List (Text × Text) :=
  slots.filterMap fun slot => (call.get? slot.name).map (slot.name, ·)

namespace Shape

/-- The values of a call that producing needs by position. -/
def requiredValues (shape : Shape) (call : BoundCall) : List Text :=
  (call.entriesFor shape.required).map Prod.snd

/-- The values of a call that producing takes by name. -/
def otherValues (shape : Shape) (call : BoundCall) : List (Text × Text) :=
  call.entriesFor (shape.slots.filter fun slot => !slot.isRequired)

end Shape

namespace Processor

variable {State Context : Type}

/-- Minimal production from the values of a call. -/
def normalForm (processor : Processor State Context) (call : BoundCall) :
    Except ProductionFault Text :=
  processor.produce .minimal (processor.shape.requiredValues call)
    (processor.shape.otherValues call)

/-- The normal form of the call that a match binds to. -/
def normalize? (processor : Processor State Context) (found : Found) : Option Text :=
  match processor.bind found with
  | .ok call => (processor.normalForm call).toOption
  | .error _ => none

/-- A match in some text that binds to a call, with values that a unit of the grammar
can hold. -/
structure Denotes (processor : Processor State Context) (found : Found) (call : BoundCall) :
    Prop where
  matched : ∃ text, found ∈ processor.find text
  bound : processor.bind found = .ok call
  sameLine : processor.grammar.multiline = false →
    ∀ argument ∈ call.toList, ∀ value, argument.value = some value → '\n' ∉ value

end Processor

/-! ## The values of a call -/

namespace BoundCall

variable {call : BoundCall} {slots : List Slot}

theorem keys_entriesFor_sublist (call : BoundCall) (slots : List Slot) :
    ((call.entriesFor slots).map Prod.fst).Sublist (slots.map (·.name)) := by
  induction slots with
  | nil => exact .slnil
  | cons slot slots ih =>
      cases value : call.get? slot.name with
      | none => simpa [entriesFor, value] using ih.cons slot.name
      | some text => simpa [entriesFor, value] using ih

theorem keys_entriesFor (complete : ∀ slot ∈ slots, (call.get? slot.name).isSome = true) :
    (call.entriesFor slots).map Prod.fst = slots.map (·.name) := by
  induction slots with
  | nil => rfl
  | cons slot slots ih =>
      obtain ⟨here, later⟩ := List.forall_mem_cons.mp complete
      obtain ⟨text, value⟩ := Option.isSome_iff_exists.mp here
      simpa [entriesFor, value] using ih later

theorem lookup_entriesFor (distinct : (slots.map (·.name)).Nodup) {slot : Slot}
    (member : slot ∈ slots) : (call.entriesFor slots).lookup slot.name = call.get? slot.name := by
  apply Option.ext
  intro value
  rw [lookup_eq_some_iff_mem (distinct.sublist (call.keys_entriesFor_sublist slots)), entriesFor,
    List.mem_filterMap]
  constructor
  · rintro ⟨other, -, entry⟩
    obtain ⟨text, received, same⟩ := Option.map_eq_some_iff.mp entry
    simp only [Prod.mk.injEq] at same
    obtain ⟨sameName, rfl⟩ := same
    rw [← sameName, received]
  · intro received
    exact ⟨slot, member, by rw [received]; rfl⟩

theorem exists_argument_of_get? {name value : Text} (received : call.get? name = some value) :
    ∃ argument ∈ call.toList, argument.value = some value := by
  obtain ⟨argument, found, isValue⟩ := Option.bind_eq_some_iff.mp received
  exact ⟨argument, List.mem_of_find?_eq_some found, isValue⟩

end BoundCall

namespace Shape

variable {shape : Shape} {grammar : Grammar} {call : BoundCall}

section Values

variable (declared : WellDeclared shape.slots)
  (complete : ∀ slot ∈ shape.required, (call.get? slot.name).isSome = true)

include complete

theorem length_requiredValues : (shape.requiredValues call).length = shape.required.length := by
  simpa [requiredValues] using congrArg List.length (BoundCall.keys_entriesFor complete)

include declared

theorem supplied_values :
    shape.supplied (shape.requiredValues call) (shape.otherValues call) =
      call.entriesFor (shape.required ++ shape.slots.filter fun slot => !slot.isRequired) := by
  obtain ⟨rest, positional⟩ := required_prefix_positional declared
  have zipped : (shape.positional.map (·.name)).zip (shape.requiredValues call) =
      call.entriesFor shape.required := by
    rw [← positional, List.map_append, requiredValues, ← BoundCall.keys_entriesFor complete,
      ← List.append_nil ((call.entriesFor shape.required).map Prod.snd),
      List.zip_append (by simp), List.zip_nil_right, List.append_nil, List.zip_map']
    exact List.map_id _
  rw [supplied, zipped, otherValues, BoundCall.entriesFor, BoundCall.entriesFor,
    BoundCall.entriesFor, List.filterMap_append]

theorem lookup_supplied_values {slot : Slot} (member : slot ∈ shape.slots) :
    (shape.supplied (shape.requiredValues call) (shape.otherValues call)).lookup slot.name =
      call.get? slot.name := by
  have sameSlots := List.filter_append_perm (·.isRequired) shape.slots
  rw [supplied_values declared complete]
  apply BoundCall.lookup_entriesFor
  · exact (sameSlots.map _).nodup_iff.mpr declared.nodup_names
  · exact sameSlots.mem_iff.mpr member

theorem fits_values :
    shape.Fits (shape.requiredValues call).length ((shape.otherValues call).map Prod.fst) := by
  have keys := call.keys_entriesFor_sublist (shape.slots.filter fun slot => !slot.isRequired)
  have inFront := List.prefix_iff_eq_take.mp (required_prefix_positional declared)
  rw [length_requiredValues complete]
  refine ⟨⟨(required_prefix_positional declared).length_le, ?_, fun key member => ?_⟩, le_rfl⟩
  · exact (declared.nodup_names.sublist (List.filter_sublist.map _)).sublist keys
  · obtain ⟨slot, isOther, rfl⟩ := List.mem_map.mp (keys.subset member)
    obtain ⟨inSlots, optional⟩ := List.mem_filter.mp isOther
    refine ⟨slot, inSlots, rfl, by simpa using optional, fun inTake => ?_⟩
    rw [← inFront] at inTake
    simp [(List.mem_filter.mp inTake).2] at optional

end Values

/-- A call with the values of its slots given again is the same call. -/
theorem callOf_supplied_values (declared : WellDeclared shape.slots)
    {values : List (Text × Text)}
    (complete : ∀ slot ∈ shape.required, ((shape.callOf values).get? slot.name).isSome = true) :
    shape.callOf (shape.supplied (shape.requiredValues (shape.callOf values))
      (shape.otherValues (shape.callOf values))) = shape.callOf values := by
  apply callOf_congr
  intro slot member
  rw [lookup_supplied_values declared complete member, get?_callOf declared member,
    Option.or_assoc, Option.or_self]

/-- Items that bind supply each required slot, and all that a call has besides are
defaults. -/
theorem exists_values_of_bindSlots (declared : WellDeclared shape.slots) {items : List Item}
    (bound : shape.bindSlots grammar items = .ok call) :
    (∃ values, call = shape.callOf values) ∧
      ∀ slot ∈ shape.required, (call.get? slot.name).isSome = true := by
  obtain ⟨faultless, enough⟩ := (bindSlots_isOk_iff declared grammar).mp ⟨call, bound⟩
  rw [bindSlots_of_faultless declared grammar faultless, if_pos enough, Except.ok.injEq] at bound
  refine ⟨⟨_, bound.symm⟩, fun slot member => ?_⟩
  have inSlots := List.mem_of_mem_filter member
  have supplied : ((shape.valuesRead grammar items).lookup slot.name).isSome = true :=
    lookup_isSome_iff_mem.mpr (required_mem_valuesRead declared enough member)
  rw [← bound, get?_callOf declared inSlots, Option.isSome_or, supplied, Bool.true_or]

/-- Minimal production can write every call whose required slots have values. -/
theorem exists_producedItems_values (declared : WellDeclared shape.slots)
    (fixed : shape.isVariadic = false)
    (complete : ∀ slot ∈ shape.required, (call.get? slot.name).isSome = true)
    (sameLine : grammar.multiline = false →
      ∀ argument ∈ call.toList, ∀ value, argument.value = some value → '\n' ∉ value) :
    ∃ items, shape.producedItems grammar .minimal (shape.requiredValues call)
      (shape.otherValues call) = .ok items := by
  apply (producedItems_isOk_iff declared fixed).mpr
  refine ⟨fits_values declared complete, fun single slot member value isWritten => ?_⟩
  have received : call.get? slot.name = some value := by
    rw [← lookup_supplied_values declared complete member]
    exact lookup_eq_some_of_written_minimal isWritten
  obtain ⟨argument, inCall, isValue⟩ := BoundCall.exists_argument_of_get? received
  exact sameLine single argument inCall value isValue

end Shape

/-! ## Normal forms -/

namespace Processor

variable {State Context : Type} {grammar : Grammar} {name : Text} {slots : List Slot}
  {acceptsContext : Bool} {shape : Shape} {callback : Callback State Context}
  {processor : Processor State Context} {mode : ProductionMode}
  {positional positionalToo : List Text} {named namedToo : List (Text × Text)}
  {unit unitToo : Text} {found : Found} {call : BoundCall}

/-- A produced unit on its own is one match, for the call it was produced for. -/
theorem find_produced (declared : Shape.declare slots acceptsContext = .ok shape)
    (built : Processor.shorthand grammar name shape callback = .ok processor)
    (keeps : grammar.KeepsNames slots)
    (produced : processor.produce mode positional named = .ok unit) :
    ∃ again, processor.find unit = [again] ∧ again.span = ⟨0, byteLength unit⟩ ∧
      processor.bind again = .ok (shape.callOf (shape.supplied positional named)) := by
  obtain ⟨wellDeclared, made⟩ := Shape.declare_eq_ok_iff.mp declared
  have fixed : shape.parameters = .fixed slots := by rw [made]
  obtain ⟨valid, rfl, rfl, matcher, rfl⟩ := shorthand_eq_ok built
  obtain ⟨items, itemsOk, rfl⟩ := (produce_eq_ok_iff matcher).mp produced
  have writable := Shape.writable_producedItems wellDeclared fixed keeps.escape_not_word
    (fun slot member optional => keeps.free slot member (by simpa [Slot.isRequired] using optional))
    itemsOk
  obtain ⟨arguments, earlier, later, read, found, noneEarlier, noneLater⟩ :=
    find_writeUnit matcher valid writable processor.grammar.endsPlainly_nil []
  simp only [noneEarlier, noneLater, List.nil_append, List.append_nil] at found
  refine ⟨_, found, by simp [byteLength], ?_⟩
  rw [← Shape.bind_producedItems wellDeclared fixed itemsOk, ← read]
  rfl

/-- Minimal production writes the same unit exactly for values that make the same
call. -/
theorem produce_minimal_eq_iff (declared : Shape.declare slots acceptsContext = .ok shape)
    (built : Processor.shorthand grammar name shape callback = .ok processor)
    (keeps : grammar.KeepsNames slots)
    (produced : processor.produce .minimal positional named = .ok unit)
    (producedToo : processor.produce .minimal positionalToo namedToo = .ok unitToo) :
    unit = unitToo ↔ shape.callOf (shape.supplied positional named) =
      shape.callOf (shape.supplied positionalToo namedToo) := by
  constructor
  · rintro rfl
    obtain ⟨again, alone, -, bound⟩ := find_produced declared built keeps produced
    obtain ⟨againToo, aloneToo, -, boundToo⟩ := find_produced declared built keeps producedToo
    obtain rfl : again = againToo := by simpa using alone.symm.trans aloneToo
    exact Except.ok.inj (bound.symm.trans boundToo)
  · intro same
    obtain ⟨-, -, -, matcher, rfl⟩ := shorthand_eq_ok built
    obtain ⟨items, itemsOk, rfl⟩ := (produce_eq_ok_iff matcher).mp produced
    obtain ⟨itemsToo, itemsOkToo, rfl⟩ := (produce_eq_ok_iff matcher).mp producedToo
    rw [Shape.producedItems_minimal_congr (Shape.wellDeclared_of_declare declared) itemsOk
      itemsOkToo same]

/-- The call of a match has a normal form, made from values that make the call. -/
theorem Denotes.exists_normalForm (declared : Shape.declare slots acceptsContext = .ok shape)
    (built : Processor.shorthand grammar name shape callback = .ok processor)
    (denotes : processor.Denotes found call) :
    (∃ unit, processor.normalForm call = .ok unit) ∧
      shape.callOf (shape.supplied (shape.requiredValues call) (shape.otherValues call)) =
        call := by
  have wellDeclared := Shape.wellDeclared_of_declare declared
  have fixed : shape.isVariadic = false := by
    obtain ⟨-, rfl⟩ := Shape.declare_eq_ok_iff.mp declared
    rfl
  obtain ⟨-, -, -, matcher, rfl⟩ := shorthand_eq_ok built
  obtain ⟨⟨text, matched⟩, bound, sameLine⟩ := denotes
  simp only [find, Matcher.find, matcher, List.mem_filterMap, Option.map_eq_some_iff] at matched
  obtain ⟨_, -, arguments, -, rfl⟩ := matched
  simp only [Processor.bind, Shape.bind_of_declare declared] at bound
  obtain ⟨⟨values, rfl⟩, complete⟩ := Shape.exists_values_of_bindSlots wellDeclared bound
  obtain ⟨items, itemsOk⟩ :=
    Shape.exists_producedItems_values wellDeclared fixed complete sameLine
  exact ⟨⟨_, (produce_eq_ok_iff matcher).mpr ⟨items, itemsOk, rfl⟩⟩,
    Shape.callOf_supplied_values wellDeclared complete⟩

theorem Denotes.normalize?_eq (denotes : processor.Denotes found call)
    (isNormal : processor.normalForm call = .ok unit) : processor.normalize? found = some unit := by
  rw [normalize?, denotes.bound]
  simp only [isNormal, Except.toOption]

/-- Every unit has a normal form, if its values can be written.  The normal form is a
unit for the same call and its own normal form, and two units have the same one exactly
if they denote the same call. -/
theorem normalize?_exact (declared : Shape.declare slots acceptsContext = .ok shape)
    (built : Processor.shorthand grammar name shape callback = .ok processor)
    (keeps : grammar.KeepsNames slots) :
    (∀ found call, processor.Denotes found call →
      ∃ unit again, processor.normalForm call = .ok unit ∧
        processor.normalize? found = some unit ∧
        processor.find unit = [again] ∧ again.span = ⟨0, byteLength unit⟩ ∧
        processor.bind again = .ok call ∧
        processor.normalize? again = some unit) ∧
    ∀ found foundToo call callToo, processor.Denotes found call →
      processor.Denotes foundToo callToo →
      (processor.normalize? found = processor.normalize? foundToo ↔ call = callToo) := by
  constructor
  · intro found call denotes
    obtain ⟨⟨unit, isNormal⟩, same⟩ := denotes.exists_normalForm declared built
    obtain ⟨-, -, -, -, rfl⟩ := shorthand_eq_ok built
    obtain ⟨again, alone, whole, bound⟩ := find_produced declared built keeps isNormal
    rw [same] at bound
    have denotesAgain : processor.Denotes again call :=
      ⟨⟨unit, by simp [alone]⟩, bound, denotes.sameLine⟩
    exact ⟨unit, again, isNormal, denotes.normalize?_eq isNormal, alone, whole, bound,
      denotesAgain.normalize?_eq isNormal⟩
  · intro found foundToo call callToo denotes denotesToo
    obtain ⟨⟨unit, isNormal⟩, same⟩ := denotes.exists_normalForm declared built
    obtain ⟨⟨unitToo, isNormalToo⟩, sameToo⟩ := denotesToo.exists_normalForm declared built
    obtain ⟨-, -, -, -, rfl⟩ := shorthand_eq_ok built
    rw [denotes.normalize?_eq isNormal, denotesToo.normalize?_eq isNormalToo, Option.some.injEq,
      produce_minimal_eq_iff declared built keeps isNormal isNormalToo, same, sameToo]

/-- The damage is the default and the reach is not. -/
def nearAttack : BoundCall where
  positional := [⟨['h', 'i', 't'], some ['k', '=', '1']⟩, ⟨['d', 'a', 'm'], some ['0']⟩,
    ⟨['r', 'e', 'a'], some ['=']⟩]
  named := [⟨['d', 'e', 'f'], some []⟩]

theorem denotes_nearAttack {text arguments : Text} {span : Span}
    (alone : attack.find text = [⟨span, .delimited (some arguments)⟩])
    (bound : attack.shape.bind Grammar.default (Grammar.default.items (some arguments)) =
      .ok nearAttack) :
    attack.Denotes ⟨span, .delimited (some arguments)⟩ nearAttack where
  matched := ⟨text, by simp [alone]⟩
  bound := bound
  sameLine := fun _ => by decide

/-- One unit writes the damage and so can give the reach by position.  The other writes
the defense and escapes more than it needs. -/
theorem attack_normalize? :
    Shape.declare attackSlots = .ok attack.shape ∧
      Processor.shorthand Grammar.default ['a', 't', 't'] attack.shape attack.callback =
        .ok attack ∧
      ∃ first second,
        attack.find "\x7b\x7batt|k\\=1|0|=\x7d\x7d".toList = [first] ∧
        attack.find "\x7b\x7batt|k\\=1|def=|rea=\\=\x7d\x7d".toList = [second] ∧
        attack.normalize? first = attack.normalize? second ∧
        attack.normalize? first = some "\x7b\x7batt|k\\=1|rea==\x7d\x7d".toList := by
  have declared : Shape.declare attackSlots = .ok attack.shape := by rfl
  have wellDeclared := (Shape.declare_eq_ok_iff.mp declared).1
  have built : Processor.shorthand Grammar.default ['a', 't', 't'] attack.shape
      attack.callback = .ok attack := by rfl
  obtain ⟨normal, same_iff⟩ :=
    normalize?_exact declared built (Grammar.keepsNames_default wellDeclared)
  have first : attack.find "\x7b\x7batt|k\\=1|0|=\x7d\x7d".toList =
      [⟨⟨0, 16⟩, .delimited (some "k\\=1|0|=".toList)⟩] := by decide +kernel
  have second : attack.find "\x7b\x7batt|k\\=1|def=|rea=\\=\x7d\x7d".toList =
      [⟨⟨0, 24⟩, .delimited (some "k\\=1|def=|rea=\\=".toList)⟩] := by decide +kernel
  have denotes := denotes_nearAttack first (by rfl)
  have denotesToo := denotes_nearAttack second (by rfl)
  have written : attack.normalForm nearAttack =
      .ok "\x7b\x7batt|k\\=1|rea==\x7d\x7d".toList := by rfl
  obtain ⟨unit, again, isNormal, normalized, -⟩ := normal _ _ denotes
  obtain rfl := Except.ok.inj (written.symm.trans isNormal)
  exact ⟨declared, built, _, _, first, second, (same_iff _ _ _ _ denotes denotesToo).mpr rfl,
    normalized⟩

end Processor

end CallMarkup
