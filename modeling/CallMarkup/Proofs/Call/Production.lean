import CallMarkup.Call.Produce
import CallMarkup.Proofs.Call.Binding
import CallMarkup.Proofs.Call.Items

/-!
# What produced items supply

Producing writes the values of slots in two runs, positional items first.
`itemsFor_slots` says which values are written where, and
`slot_of_mem_producedItems` where each item comes from, whichever values the
mode leaves out.
-/

namespace CallMarkup.Shape

variable {shape : Shape} {grammar : Grammar}

/-- What arguments supply, by slot name: positional values for the positional
slots in order, and named values. -/
def supplied (shape : Shape) (positional : List Text) (named : List (Text × Text)) :
    List (Text × Text) :=
  (shape.positional.map (·.name)).zip positional ++ named

/-- The call that gives every slot the value supplied for it, or else its
default. -/
def callOf (shape : Shape) (values : List (Text × Text)) : BoundCall where
  positional := shape.positional.map fun slot =>
    ⟨slot.name, (values.lookup slot.name).or slot.default⟩
  named := shape.named.map fun slot => ⟨slot.name, (values.lookup slot.name).or slot.default⟩

/-! ## The values given -/

theorem map_fst_zip_eq_take (keys values : List Text) :
    (keys.zip values).map Prod.fst = keys.take values.length := by
  induction keys generalizing values with
  | nil => simp
  | cons key keys ih =>
      cases values with
      | nil => simp
      | cons value values => simpa using ih values

theorem nodup_keys_zip (names : (shape.slots.map (·.name)).Nodup) (positional : List Text) :
    (((shape.positional.map (·.name)).zip positional).map Prod.fst).Nodup := by
  have positionalNames : (shape.positional.map (·.name)).Nodup :=
    names.sublist (List.filter_sublist.map _)
  rw [map_fst_zip_eq_take]
  exact positionalNames.sublist (List.take_sublist _ _)

theorem giveNamed_eq_ok {given result : List (Text × Text)} {named : List (Text × Text)}
    (ok : shape.giveNamed given named = .ok result) (distinct : (given.map Prod.fst).Nodup) :
    result = named.reverse ++ given ∧ (result.map Prod.fst).Nodup := by
  induction named generalizing given with
  | nil =>
      obtain rfl : given = result := by simpa [giveNamed] using ok
      exact ⟨rfl, distinct⟩
  | cons entry named ih =>
      obtain ⟨key, value⟩ := entry
      unfold giveNamed at ok
      split at ok
      next => simp at ok
      next slot found =>
        split at ok
        next => simp at ok
        next =>
          split at ok
          next => simp at ok
          next fresh =>
            have absent : key ∉ given.map Prod.fst := by
              intro member
              obtain ⟨⟨other, text⟩, entryMember, rfl⟩ := List.mem_map.mp member
              simp [(lookup_eq_some_iff_mem distinct).mpr entryMember] at fresh
            obtain ⟨made, distinctAll⟩ := ih ok (List.nodup_cons.mpr ⟨absent, distinct⟩)
            exact ⟨by simp [made], distinctAll⟩

/-- The values given are those that the arguments supply, for distinct slots,
and no required slot lacks one. -/
theorem given_eq_ok (names : (shape.slots.map (·.name)).Nodup) {positional : List Text}
    {named given : List (Text × Text)} (ok : shape.given positional named = .ok given) :
    (given.map Prod.fst).Nodup ∧
      (∀ key, given.lookup key = (shape.supplied positional named).lookup key) ∧
      ∀ slot ∈ shape.required, (given.lookup slot.name).isSome = true := by
  unfold Shape.given at ok
  split at ok
  · simp at ok
  next fits =>
    split at ok
    · simp at ok
    next result named_ok =>
      obtain ⟨made, distinct⟩ := giveNamed_eq_ok named_ok (nodup_keys_zip names positional)
      split at ok
      · simp at ok
      next complete =>
        obtain rfl : result = given := by simpa using ok
        refine ⟨distinct, fun key => lookup_perm ?_ distinct key, fun slot member => ?_⟩
        · rw [made]
          exact ((List.reverse_perm _).append_right _).trans List.perm_append_comm
        · have present := List.find?_eq_none.mp complete slot member
          simpa using present

/-! ## The items written -/

theorem isRequired_eq_false_of_not_isPositional {slot : Slot}
    (byName : slot.isPositional = false) : slot.isRequired = false := by
  unfold Slot.isPositional at byName
  unfold Slot.isRequired
  cases kind : slot.kind <;> simp_all

/-- No required slot follows a positional one that may be left out. -/
theorem isRequired_eq_false_of_mayFollow {earlier later : Slot} (follows : earlier.MayFollow later)
    (positional : earlier.isPositional = true) (optional : earlier.isRequired = false) :
    later.isRequired = false := by
  have kind : earlier.kind = .optional := by
    unfold Slot.isPositional at positional
    unfold Slot.isRequired at optional
    cases kind : earlier.kind <;> simp_all
  simpa [Slot.isRequired] using follows.2 kind

/-- The items for the values of declared slots: each value is written once, the
positional items are for the first positional slots, and no required slot is
written by name.  Only an optional slot can leave a gap. -/
theorem itemsFor_eq (grammar : Grammar) (gap : Bool) {values : List (Slot × Option Text)}
    (ordered : (values.map Prod.fst).Pairwise Slot.MayFollow)
    (complete : ∀ slot, (slot, none) ∈ values → slot.isRequired = false)
    (afterGap : gap = true → ∀ slot ∈ values.map Prod.fst, slot.isRequired = false) :
    ∃ front back : List (Slot × Text),
      itemsFor grammar gap values =
        (front.map fun entry => .positional (grammar.escapeValue true entry.2),
          back.map fun entry => .keyword entry.1.name (grammar.escapeValue false entry.2)) ∧
      (front ++ back).Perm
        (values.filterMap fun (slot, value) => value.map fun text => (slot, text)) ∧
      front.map Prod.fst <+: (values.map Prod.fst).filter (·.isPositional) ∧
      (gap = true → front = []) ∧
      ∀ entry ∈ back, entry.1.isRequired = false := by
  induction values generalizing gap with
  | nil => exact ⟨[], [], rfl, .nil, List.nil_prefix, fun _ => rfl, by simp⟩
  | cons entry rest ih =>
      obtain ⟨slot, value⟩ := entry
      simp only [List.map_cons, List.pairwise_cons] at ordered
      have restComplete : ∀ slot, (slot, none) ∈ rest → slot.isRequired = false :=
        fun slot member => complete slot (by simp [member])
      cases value with
      | none =>
          have optional := complete slot (by simp)
          have restAfter : (gap || slot.isPositional) = true →
              ∀ slot ∈ rest.map Prod.fst, slot.isRequired = false := by
            intro isGap later member
            rcases Bool.or_eq_true_iff.mp isGap with before | positional
            · exact afterGap before later (by simp [member])
            · exact isRequired_eq_false_of_mayFollow (ordered.1 later member) positional optional
          obtain ⟨front, back, written, all, first, nothing, byName⟩ :=
            ih (gap || slot.isPositional) ordered.2 restComplete restAfter
          refine ⟨front, back, by rw [itemsFor, written], by simpa using all, ?_, ?_, byName⟩
          · cases positional : slot.isPositional with
            | true =>
                rw [nothing (by simp [positional])]
                exact List.nil_prefix
            | false => simpa [positional] using first
          · intro isGap
            exact nothing (by simp [isGap])
      | some text =>
          have restAfter : gap = true → ∀ slot ∈ rest.map Prod.fst, slot.isRequired = false :=
            fun isGap slot member => afterGap isGap slot (by simp [member])
          obtain ⟨front, back, written, all, first, nothing, byName⟩ :=
            ih gap ordered.2 restComplete restAfter
          by_cases inFront : (slot.isPositional && !gap) = true
          · refine ⟨(slot, text) :: front, back, ?_, ?_, ?_, ?_, byName⟩
            · rw [itemsFor, written]
              simp [inFront]
            · simpa using all
            · simp only [Bool.and_eq_true] at inFront
              simpa [inFront.1] using first
            · intro isGap
              simp [isGap] at inFront
          · refine ⟨front, (slot, text) :: back, ?_, ?_, ?_, nothing, ?_⟩
            · rw [itemsFor, written]
              simp [inFront]
            · simpa using List.perm_middle.trans (all.cons (slot, text))
            · cases positional : slot.isPositional with
              | true =>
                  rw [nothing (by simpa [positional] using inFront)]
                  exact List.nil_prefix
              | false => simpa [positional] using first
            · intro entry member
              rcases List.mem_cons.mp member with rfl | later
              · cases positional : slot.isPositional with
                | true => exact afterGap (by simpa [positional] using inFront) slot (by simp)
                | false => exact isRequired_eq_false_of_not_isPositional positional
              · exact byName entry later

/-! ## The items of a unit -/

private theorem map_fst_filterMap (slots : List Slot) (written : Slot → Option Text) :
    (slots.filterMap fun slot => (written slot).map fun text => (slot, text)).map Prod.fst =
      slots.filter fun slot => (written slot).isSome := by
  induction slots with
  | nil => rfl
  | cons slot slots ih => cases value : written slot <;> simp [value, ih]

/-- The items for the values of all declared slots: one for each value, with the
positional ones for the first positional slots. -/
theorem itemsFor_slots (grammar : Grammar) {slots : List Slot} (declared : WellDeclared slots)
    (written : Slot → Option Text)
    (complete : ∀ slot ∈ slots, slot.isRequired = true → (written slot).isSome = true) :
    ∃ front back : List (Slot × Text), ∃ rest : List Slot,
      itemsFor grammar false (slots.map fun slot => (slot, written slot)) =
        (front.map fun entry => .positional (grammar.escapeValue true entry.2),
          back.map fun entry => .keyword entry.1.name (grammar.escapeValue false entry.2)) ∧
      slots.filter (·.isPositional) = front.map Prod.fst ++ rest ∧
      (∀ entry, entry ∈ front ++ back ↔ entry.1 ∈ slots ∧ written entry.1 = some entry.2) ∧
      ((front ++ back).map fun entry => entry.1.name).Nodup ∧
      ∀ entry ∈ back, entry.1.isRequired = false := by
  have mapFst : (slots.map fun slot => (slot, written slot)).map Prod.fst = slots := by
    simp [List.map_map, Function.comp_def]
  have optional : ∀ slot, (slot, none) ∈ slots.map (fun slot => (slot, written slot)) →
      slot.isRequired = false := by
    intro slot member
    obtain ⟨other, otherMember, same⟩ := List.mem_map.mp member
    simp only [Prod.mk.injEq] at same
    obtain ⟨rfl, nothing⟩ := same
    cases required : other.isRequired with
    | true => simpa [nothing] using complete other otherMember required
    | false => rfl
  obtain ⟨front, back, items, all, first, -, byName⟩ :=
    itemsFor_eq grammar false (mapFst.symm ▸ declared.pairwise) optional (by simp)
  rw [mapFst] at first
  rw [List.filterMap_map] at all
  obtain ⟨rest, positional⟩ := first
  refine ⟨front, back, rest, items, positional.symm, fun entry => ?_, ?_, byName⟩
  · rw [all.mem_iff, List.mem_filterMap]
    constructor
    · rintro ⟨slot, member, value⟩
      obtain ⟨text, isWritten, rfl⟩ := Option.map_eq_some_iff.mp value
      exact ⟨member, isWritten⟩
    · rintro ⟨member, isWritten⟩
      exact ⟨entry.1, member, by simp [isWritten]⟩
  · have slotNames := (all.map Prod.fst).map (·.name)
    rw [Function.comp_def, map_fst_filterMap, List.map_map] at slotNames
    exact slotNames.nodup_iff.mpr (declared.nodup_names.sublist (List.filter_sublist.map _))

/-- What a mode leaves out is a default. -/
theorem written_or_default (mode : ProductionMode) (given : List (Text × Text)) (slot : Slot) :
    (written mode given slot).or slot.default = (given.lookup slot.name).or slot.default := by
  unfold written
  split
  · rfl
  · cases mode with
    | exhaustive => cases given.lookup slot.name <;> simp
    | minimal =>
        cases value : given.lookup slot.name with
        | none => rfl
        | some text =>
            by_cases isDefault : some text = slot.default
            · simp [isDefault, Option.filter]
            · simp [isDefault, Option.filter]

/-- The values written stay on one line if the grammar asks for that. -/
theorem find?_lineBreak_eq_none_iff {mode : ProductionMode} {given : List (Text × Text)} :
    ((shape.slots.map fun slot => (slot, written mode given slot)).filterMap (·.2)).find?
        (fun value => !grammar.multiline && '\n' ∈ value) = none ↔
      (grammar.multiline = false → ∀ slot ∈ shape.slots, ∀ value,
        written mode given slot = some value → '\n' ∉ value) := by
  rw [List.filterMap_map, List.find?_eq_none]
  constructor
  · intro clean single slot member value isWritten lineBreak
    apply clean value (List.mem_filterMap.mpr ⟨slot, member, isWritten⟩)
    simp [single, lineBreak]
  · intro sameLine value member broken
    obtain ⟨slot, slotMember, isWritten⟩ := List.mem_filterMap.mp member
    simp only [Bool.and_eq_true, Bool.not_eq_true', decide_eq_true_eq] at broken
    exact sameLine broken.1 slot slotMember value isWritten broken.2

theorem producedItems_eq_ok {mode : ProductionMode} {positional : List Text}
    {named : List (Text × Text)} {items : List Item}
    (ok : shape.producedItems grammar mode positional named = .ok items) :
    ∃ given, shape.given positional named = .ok given ∧
      (∀ slot ∈ shape.slots, ∀ value, written mode given slot = some value →
        grammar.multiline = false → '\n' ∉ value) ∧
      items =
        (itemsFor grammar false (shape.slots.map fun slot => (slot, written mode given slot))).1 ++
          (itemsFor grammar false
            (shape.slots.map fun slot => (slot, written mode given slot))).2 := by
  unfold producedItems at ok
  split at ok
  · simp at ok
  · split at ok
    · simp at ok
    next given givenOk =>
      simp only at ok
      split at ok
      · simp at ok
      next sameLine =>
        refine ⟨given, givenOk, ?_, by simpa using ok.symm⟩
        intro slot member value isWritten single
        exact find?_lineBreak_eq_none_iff.mp sameLine single slot member value isWritten

/-- Whatever the mode, the values of required slots are written. -/
theorem written_isSome {slots : List Slot} (declared : WellDeclared slots)
    (fixed : shape.parameters = .fixed slots) {positional : List Text}
    {named given : List (Text × Text)} (ok : shape.given positional named = .ok given)
    (mode : ProductionMode) {slot : Slot} (member : slot ∈ slots)
    (required : slot.isRequired = true) : (written mode given slot).isSome = true := by
  have slotsEq : shape.slots = slots := by simp [Shape.slots, fixed]
  obtain ⟨-, -, complete⟩ := given_eq_ok (slotsEq ▸ declared.nodup_names) ok
  have present := complete slot (List.mem_filter.mpr ⟨slotsEq ▸ member, required⟩)
  simpa [written, required] using present

/-- Each item that producing writes holds the escaped value of a slot, and only
slots that may be left out are written by name. -/
theorem slot_of_mem_producedItems {slots : List Slot} (declared : WellDeclared slots)
    (fixed : shape.parameters = .fixed slots) {mode : ProductionMode} {positional : List Text}
    {named : List (Text × Text)} {items : List Item}
    (ok : shape.producedItems grammar mode positional named = .ok items) {item : Item}
    (member : item ∈ items) :
    ∃ slot ∈ slots, ∃ value, (grammar.multiline = false → '\n' ∉ value) ∧
      (item = .positional (grammar.escapeValue true value) ∨
        slot.isRequired = false ∧ item = .keyword slot.name (grammar.escapeValue false value)) := by
  obtain ⟨given, givenOk, sameLine, rfl⟩ := producedItems_eq_ok ok
  have slotsEq : shape.slots = slots := by simp [Shape.slots, fixed]
  obtain ⟨front, back, rest, items, -, mem_entry, -, byName⟩ :=
    itemsFor_slots grammar declared (written mode given) fun slot member required =>
      written_isSome declared fixed givenOk mode member required
  rw [slotsEq, items] at member
  have entryFor (entry : Slot × Text) (inBoth : entry ∈ front ++ back) :
      entry.1 ∈ slots ∧ (grammar.multiline = false → '\n' ∉ entry.2) := by
    obtain ⟨slotMember, isWritten⟩ := (mem_entry entry).mp inBoth
    exact ⟨slotMember, sameLine entry.1 (slotsEq ▸ slotMember) entry.2 isWritten⟩
  rcases List.mem_append.mp member with positional | keyword
  · obtain ⟨entry, entryMember, rfl⟩ := List.mem_map.mp positional
    obtain ⟨slotMember, inLine⟩ := entryFor entry (by simp [entryMember])
    exact ⟨entry.1, slotMember, entry.2, inLine, .inl rfl⟩
  · obtain ⟨entry, entryMember, rfl⟩ := List.mem_map.mp keyword
    obtain ⟨slotMember, inLine⟩ := entryFor entry (by simp [entryMember])
    exact ⟨entry.1, slotMember, entry.2, inLine, .inr ⟨byName entry entryMember, rfl⟩⟩

/-- The items that producing writes are read back from the text of the unit. -/
theorem writable_producedItems {slots : List Slot} (declared : WellDeclared slots)
    (fixed : shape.parameters = .fixed slots)
    (notWord : Unicode.isWord grammar.escape = false)
    (free : ∀ slot ∈ slots, slot.isRequired = false →
      ∀ c ∈ slot.name, grammar.isReserved c = false)
    {mode : ProductionMode} {positional : List Text} {named : List (Text × Text)}
    {items : List Item} (ok : shape.producedItems grammar mode positional named = .ok items) :
    ∀ item ∈ items, grammar.Writable item := by
  intro item member
  obtain ⟨slot, slotMember, value, inLine, cases⟩ :=
    slot_of_mem_producedItems declared fixed ok member
  rcases cases with rfl | ⟨optional, rfl⟩
  · exact Grammar.writable_positional notWord inLine
  · exact Grammar.writable_keyword (declared.identifiers slot slotMember)
      (free slot slotMember optional) inLine

end CallMarkup.Shape
