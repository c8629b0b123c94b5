import CallMarkup.Proofs.Call.Agreement
import Mathlib.Data.List.Perm.Subperm

/-!
# The fewest items for a call

A call needs an item for each required slot and for each other slot with a value
that is not its default, since no other item can fill the slot.  Minimal production
writes just these, whatever values the call was made from: `produce_minimal_length`
says that no items for the same call are fewer, positional or by keyword.
-/

namespace CallMarkup.Shape

variable {shape : Shape} {grammar : Grammar}

/-- The slots that may be left out but have another value than their default. -/
def differing (shape : Shape) (call : BoundCall) : List Slot :=
  shape.slots.filter fun slot => !slot.isRequired && call.get? slot.name ≠ slot.default

/-- The slots that only an item can give their value in a call. -/
def essential (shape : Shape) (call : BoundCall) : List Slot :=
  shape.slots.filter fun slot => slot.isRequired || call.get? slot.name ≠ slot.default

theorem length_essential (shape : Shape) (call : BoundCall) :
    (shape.essential call).length = shape.required.length + (shape.differing call).length := by
  rw [List.length_eq_length_filter_add (·.isRequired), essential, List.filter_filter,
    List.filter_filter]
  congr 2
  · refine List.filter_congr fun slot _ => ?_
    cases slot.isRequired <;> rfl
  · refine List.filter_congr fun slot _ => ?_
    cases slot.isRequired <;> simp

/-! ## Items needed -/

theorem required_mem_valuesRead (declared : WellDeclared shape.slots) {items : List Item}
    (enough : shape.required.length ≤ (positionalTexts items).length) {slot : Slot}
    (required : slot ∈ shape.required) :
    slot.name ∈ (shape.valuesRead grammar items).map Prod.fst := by
  have inTake := (forall_required_mem_take_iff declared).mpr enough slot required
  rw [map_fst_valuesRead]
  exact List.mem_append_left _ (List.mem_map_of_mem inTake)

/-- Items for a call fill all its essential slots. -/
theorem name_mem_valuesRead (declared : WellDeclared shape.slots) {items : List Item}
    (enough : shape.required.length ≤ (positionalTexts items).length) {slot : Slot}
    (member : slot ∈ shape.essential (shape.callOf (shape.valuesRead grammar items))) :
    slot.name ∈ (shape.valuesRead grammar items).map Prod.fst := by
  obtain ⟨inSlots, needed⟩ := List.mem_filter.mp member
  rw [get?_callOf declared inSlots, Bool.or_eq_true, decide_eq_true_iff] at needed
  rcases needed with required | differs
  · exact required_mem_valuesRead declared enough (List.mem_filter.mpr ⟨inSlots, required⟩)
  · rw [← lookup_isSome_iff_mem, Option.isSome_iff_ne_none]
    intro absent
    rw [absent, Option.none_or] at differs
    exact differs rfl

theorem length_valuesRead {texts : List Text} {entries : List (Text × Text)}
    (room : texts.length ≤ shape.positional.length) :
    (shape.valuesRead grammar (itemsOf texts entries)).length =
      (itemsOf texts entries).length := by
  rw [valuesRead, supplied, positionalTexts_itemsOf, keywordEntries_itemsOf]
  simp [itemsOf, room]

theorem length_essential_le (declared : WellDeclared shape.slots) {items : List Item}
    {call : BoundCall} (bound : shape.bindSlots grammar items = .ok call) :
    (shape.essential call).length ≤ items.length := by
  obtain ⟨faultless, enough⟩ := (bindSlots_isOk_iff declared grammar).mp ⟨call, bound⟩
  rw [bindSlots_of_faultless declared grammar faultless, if_pos enough, Except.ok.injEq] at bound
  have filled : (shape.essential call).map (·.name) ⊆
      (shape.valuesRead grammar items).map Prod.fst := by
    intro name member
    obtain ⟨slot, isEssential, rfl⟩ := List.mem_map.mp member
    rw [← bound] at isEssential
    exact name_mem_valuesRead declared enough isEssential
  have distinct : ((shape.essential call).map (·.name)).Nodup :=
    declared.nodup_names.sublist (List.filter_sublist.map _)
  -- One item supplies one value, so distinct names need as many items.
  have fewer := (List.subperm_of_subset distinct filled).length_le
  obtain ⟨texts, entries, rfl, admits⟩ := exists_itemsOf_of_faultless faultless
  rwa [List.length_map, List.length_map, length_valuesRead admits.room] at fewer

/-! ## Values written -/

/-- Which values minimal production writes depends on the call alone. -/
theorem written_minimal_eq {given : List (Text × Text)} {slot : Slot}
    (complete : slot.isRequired = true → (given.lookup slot.name).isSome = true) :
    written .minimal given slot =
      ((given.lookup slot.name).or slot.default).filter fun text =>
        slot.isRequired || some text ≠ slot.default := by
  unfold written
  cases required : slot.isRequired with
  | true =>
      obtain ⟨text, value⟩ := Option.isSome_iff_exists.mp (complete required)
      simp [value, Option.filter]
  | false =>
      cases given.lookup slot.name with
      | some text => simp
      | none => cases slot.default <;> simp [Option.filter]

theorem lookup_eq_some_of_written_minimal {given : List (Text × Text)} {slot : Slot}
    {value : Text} (isWritten : written .minimal given slot = some value) :
    given.lookup slot.name = some value := by
  unfold written at isWritten
  split at isWritten
  · exact isWritten
  · exact (Option.filter_eq_some_iff.mp isWritten).1

/-- The values written are those of the essential slots. -/
theorem written_minimal_isSome {given : List (Text × Text)} {slot : Slot}
    (complete : slot.isRequired = true → (given.lookup slot.name).isSome = true) :
    (written .minimal given slot).isSome =
      (slot.isRequired || (given.lookup slot.name).or slot.default ≠ slot.default) := by
  unfold written
  cases required : slot.isRequired with
  | true => simpa using complete required
  | false =>
      cases given.lookup slot.name with
      | none => simp
      | some text => by_cases same : some text = slot.default <;> simp [Option.filter, same]

/-- Minimal production writes the same items for all values that make the same call. -/
theorem producedItems_minimal_congr (declared : WellDeclared shape.slots)
    {positional positionalToo : List Text} {named namedToo : List (Text × Text)}
    {items itemsToo : List Item}
    (ok : shape.producedItems grammar .minimal positional named = .ok items)
    (okToo : shape.producedItems grammar .minimal positionalToo namedToo = .ok itemsToo)
    (same : shape.callOf (shape.supplied positional named) =
      shape.callOf (shape.supplied positionalToo namedToo)) : items = itemsToo := by
  obtain ⟨given, givenOk, -, rfl⟩ := producedItems_eq_ok ok
  obtain ⟨givenToo, givenOkToo, -, rfl⟩ := producedItems_eq_ok okToo
  obtain ⟨-, supplies, complete⟩ := given_eq_ok declared.nodup_names givenOk
  obtain ⟨-, suppliesToo, completeToo⟩ := given_eq_ok declared.nodup_names givenOkToo
  have sameWritten : ∀ slot ∈ shape.slots,
      written .minimal given slot = written .minimal givenToo slot := by
    intro slot member
    have received := congrArg (·.get? slot.name) same
    simp only [get?_callOf declared member, ← supplies, ← suppliesToo] at received
    rw [written_minimal_eq fun required => complete slot (List.mem_filter.mpr ⟨member, required⟩),
      written_minimal_eq fun required =>
        completeToo slot (List.mem_filter.mpr ⟨member, required⟩), received]
  have sameValues : (shape.slots.map fun slot => (slot, written .minimal given slot)) =
      shape.slots.map fun slot => (slot, written .minimal givenToo slot) :=
    List.map_congr_left fun slot member => by rw [sameWritten slot member]
  rw [sameValues]

/-! ## Items written -/

/-- Each value is written as one item, before or after a gap. -/
theorem length_itemsFor (grammar : Grammar) (gap : Bool) (values : List (Slot × Option Text)) :
    (itemsFor grammar gap values).1.length + (itemsFor grammar gap values).2.length =
      (values.filter (·.2.isSome)).length := by
  induction values generalizing gap with
  | nil => rfl
  | cons entry values ih =>
      obtain ⟨slot, value⟩ := entry
      cases value with
      | none => exact ih _
      | some text =>
          rw [List.filter_cons_of_pos rfl, List.length_cons, ← ih gap, itemsFor]
          obtain ⟨positional, keywords⟩ := itemsFor grammar gap values
          cases slot.isPositional && !gap with
          | true => simp only [if_true, List.length_cons, Nat.add_right_comm]
          | false => simp only [Bool.false_eq_true, if_false, List.length_cons, Nat.add_assoc]

theorem length_producedItems_minimal (declared : WellDeclared shape.slots)
    {positional : List Text} {named : List (Text × Text)} {items : List Item}
    (ok : shape.producedItems grammar .minimal positional named = .ok items) :
    items.length =
      (shape.essential (shape.callOf (shape.supplied positional named))).length := by
  obtain ⟨given, givenOk, -, rfl⟩ := producedItems_eq_ok ok
  obtain ⟨-, same, complete⟩ := given_eq_ok declared.nodup_names givenOk
  rw [List.length_append, length_itemsFor, List.filter_map, List.length_map, essential]
  congr 1
  refine List.filter_congr fun slot member => ?_
  rw [get?_callOf declared member, ← same]
  exact written_minimal_isSome fun required =>
    complete slot (List.mem_filter.mpr ⟨member, required⟩)

/-- Minimal production writes one item for each required slot and for each other one
whose value is not its default.  Whatever other items bind to the same call, they are
not fewer. -/
theorem produce_minimal_length {slots : List Slot} {acceptsContext : Bool}
    (declared : Shape.declare slots acceptsContext = .ok shape) (grammar : Grammar) (callee : Text)
    (positional : List Text) (named : List (Text × Text)) (unit : Text)
    (produced : shape.produce grammar callee .minimal positional named = .ok unit) :
    ∃ items, shape.producedItems grammar .minimal positional named = .ok items ∧
      unit = grammar.writeUnit callee items ∧
      let call := shape.callOf (shape.supplied positional named)
      shape.bind grammar items = .ok call ∧
      items.length = shape.required.length + (shape.differing call).length ∧
      ∀ others, shape.bind grammar others = .ok call → items.length ≤ others.length := by
  have wellDeclared := wellDeclared_of_declare declared
  have fixed : shape.parameters = .fixed shape.slots := by
    obtain ⟨-, rfl⟩ := Shape.declare_eq_ok_iff.mp declared
    rfl
  unfold produce at produced
  cases ok : shape.producedItems grammar .minimal positional named with
  | error fault => simp [ok, Except.map] at produced
  | ok items =>
      simp only [ok, Except.map, Except.ok.injEq] at produced
      have count := length_producedItems_minimal wellDeclared ok
      refine ⟨items, rfl, produced.symm, bind_producedItems wellDeclared fixed ok, ?_, ?_⟩
      · rw [count, length_essential]
      · intro others bound
        rw [bind_of_declare declared] at bound
        rw [count]
        exact length_essential_le wellDeclared bound

/-! ## A default in the middle -/

/-- Two optional slots after a required one. -/
def gappedSlots : List Slot :=
  [⟨['a'], .required, none⟩, ⟨['b'], .optional, some ['1']⟩, ⟨['c'], .optional, none⟩]

def gapped : Shape :=
  { parameters := .fixed gappedSlots }

/-- To leave out the default costs no more items, although the value after it can no
longer be positional. -/
theorem gapped_minimal_length :
    Shape.declare gappedSlots = .ok gapped ∧
      gapped.produce Grammar.default ['f'] .minimal [['x'], ['1'], ['z']] [] =
        .ok "\x7b\x7bf|x|c=z\x7d\x7d".toList ∧
      ∃ items, gapped.producedItems Grammar.default .minimal [['x'], ['1'], ['z']] [] =
          .ok items ∧
        items.length = 2 ∧ items.length ≤ (itemsOf [['x'], ['1'], ['z']] []).length := by
  have declared : Shape.declare gappedSlots = .ok gapped := by rfl
  have produced : gapped.produce Grammar.default ['f'] .minimal [['x'], ['1'], ['z']] [] =
      .ok "\x7b\x7bf|x|c=z\x7d\x7d".toList := by rfl
  obtain ⟨items, written, -, -, count, least⟩ :=
    produce_minimal_length declared Grammar.default ['f'] _ _ _ produced
  exact ⟨declared, produced, items, written, count, least _ rfl⟩

end CallMarkup.Shape
