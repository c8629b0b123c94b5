import CallMarkup.Diagnostic
import CallMarkup.Proofs.Call.Fitting

/-!
# Producing and binding agree

Binding the items that producing writes gives every slot the value that was
given for it, or else its default: this is `bind_producedItems`.  The checks of
producing come in another order than those of binding, and a required slot given
by name is a fault whether or not it has a value already.  Still both accept the
same arguments, those that fit the shape.
-/

namespace CallMarkup.Shape

variable {shape : Shape} {grammar : Grammar}

/-! ## Binding what was written -/

/-- Values for distinct slots, the first ones in order and the others by name, fit
if no required slot is left over. -/
theorem fits_entries (declared : WellDeclared shape.slots) {front back : List (Slot × Text)}
    {rest : List Slot} (first : shape.positional = front.map Prod.fst ++ rest)
    (distinct : ((front ++ back).map fun entry => entry.1.name).Nodup)
    (known : ∀ entry ∈ back, entry.1 ∈ shape.slots ∧ entry.1.isRequired = false)
    (complete : ∀ slot ∈ shape.required, slot ∈ (front ++ back).map Prod.fst) :
    shape.Fits front.length (back.map fun entry => entry.1.name) := by
  have inFront : shape.positional.take front.length = front.map Prod.fst := by
    rw [first, List.take_left' (List.length_map _)]
  rw [List.map_append, List.nodup_append] at distinct
  obtain ⟨-, backDistinct, apart⟩ := distinct
  refine ⟨⟨?_, backDistinct, fun key member => ?_⟩, ?_⟩
  · simp [first]
  · obtain ⟨entry, inBack, rfl⟩ := List.mem_map.mp member
    obtain ⟨slotMember, optional⟩ := known entry inBack
    refine ⟨entry.1, slotMember, rfl, optional, fun inTake => ?_⟩
    rw [inFront] at inTake
    obtain ⟨other, otherMember, same⟩ := List.mem_map.mp inTake
    exact apart _ (List.mem_map_of_mem otherMember) _ member (by rw [same])
  · rw [← forall_required_mem_take_iff declared, inFront]
    intro slot member
    have written := complete slot member
    rw [List.map_append, List.mem_append] at written
    refine written.resolve_right fun inBack => ?_
    obtain ⟨entry, entryMember, rfl⟩ := List.mem_map.mp inBack
    have required := (List.mem_filter.mp member).2
    rw [(known entry entryMember).2] at required
    cases required

theorem valuesRead_entries {front back : List (Slot × Text)} {rest : List Slot}
    (first : shape.positional = front.map Prod.fst ++ rest) :
    shape.valuesRead grammar
        (itemsOf (front.map fun entry => grammar.escapeValue true entry.2)
          (back.map fun entry => (entry.1.name, grammar.escapeValue false entry.2))) =
      (front ++ back).map fun entry => (entry.1.name, entry.2) := by
  have zipped : (shape.positional.map (·.name)).zip (front.map Prod.snd) =
      front.map fun entry => (entry.1.name, entry.2) := by
    rw [first, List.map_append, ← List.append_nil (front.map Prod.snd),
      List.zip_append (by simp), List.zip_nil_right, List.append_nil, List.map_map, List.zip_map']
    rfl
  simp [valuesRead, supplied, Function.comp_def, Grammar.escapeValue, zipped]

/-- The items written for the values of slots bind to exactly these values. -/
theorem bindSlots_itemsFor (grammar : Grammar) (declared : WellDeclared shape.slots)
    (written : Slot → Option Text)
    (complete : ∀ slot ∈ shape.slots, slot.isRequired = true → (written slot).isSome = true) :
    ∃ values,
      shape.bindSlots grammar
        ((itemsFor grammar false (shape.slots.map fun slot => (slot, written slot))).1 ++
          (itemsFor grammar false (shape.slots.map fun slot => (slot, written slot))).2) =
        .ok (shape.callOf values) ∧
      ∀ slot ∈ shape.slots, values.lookup slot.name = written slot := by
  obtain ⟨front, back, rest, items, first, mem_entry, distinct, byName⟩ :=
    itemsFor_slots grammar declared written complete
  have known : ∀ entry ∈ back, entry.1 ∈ shape.slots ∧ entry.1.isRequired = false :=
    fun entry member => ⟨((mem_entry entry).mp (by simp [member])).1, byName entry member⟩
  have requiredWritten : ∀ slot ∈ shape.required, slot ∈ (front ++ back).map Prod.fst := by
    intro slot member
    obtain ⟨slotMember, required⟩ := List.mem_filter.mp member
    obtain ⟨text, isWritten⟩ := Option.isSome_iff_exists.mp (complete slot slotMember required)
    exact List.mem_map.mpr ⟨(slot, text), (mem_entry _).mpr ⟨slotMember, isWritten⟩, rfl⟩
  have fits := fits_entries declared first distinct known requiredWritten
  have bound : shape.bindSlots grammar
      (itemsOf (front.map fun entry => grammar.escapeValue true entry.2)
        (back.map fun entry => (entry.1.name, grammar.escapeValue false entry.2))) =
      .ok (shape.callOf ((front ++ back).map fun entry => (entry.1.name, entry.2))) := by
    rw [bindSlots_itemsOf declared grammar (by simpa [Function.comp_def] using fits),
      valuesRead_entries first]
  refine ⟨(front ++ back).map fun entry => (entry.1.name, entry.2), ?_, fun slot member => ?_⟩
  · rw [items, ← bound]
    simp [itemsOf, Function.comp_def]
  · apply Option.ext
    intro text
    rw [lookup_eq_some_iff_mem (by simpa [Function.comp_def] using distinct), List.mem_map]
    constructor
    · rintro ⟨⟨other, value⟩, entryMember, same⟩
      obtain ⟨otherMember, isWritten⟩ := (mem_entry _).mp entryMember
      simp only [Prod.mk.injEq] at same
      obtain rfl := declared.eq_of_name_eq otherMember member same.1
      rw [isWritten, same.2]
    · intro isWritten
      exact ⟨(slot, text), (mem_entry _).mpr ⟨member, isWritten⟩, rfl⟩

/-- Binding the items that producing writes gives every slot the value supplied
for it, or else its default. -/
theorem bind_producedItems {slots : List Slot} (declared : WellDeclared slots)
    (fixed : shape.parameters = .fixed slots) {mode : ProductionMode} {positional : List Text}
    {named : List (Text × Text)} {items : List Item}
    (ok : shape.producedItems grammar mode positional named = .ok items) :
    shape.bind grammar items = .ok (shape.callOf (shape.supplied positional named)) := by
  obtain ⟨given, givenOk, -, rfl⟩ := producedItems_eq_ok ok
  have slotsEq : shape.slots = slots := by simp [Shape.slots, fixed]
  subst slotsEq
  obtain ⟨-, same, -⟩ := given_eq_ok declared.nodup_names givenOk
  obtain ⟨values, bound, lookup_eq⟩ := bindSlots_itemsFor grammar declared (written mode given)
    fun slot member required => written_isSome declared fixed givenOk mode member required
  have bind_eq (items : List Item) : shape.bind grammar items = shape.bindSlots grammar items := by
    rw [Shape.bind, fixed]
  rw [bind_eq, bound]
  congr 1
  apply callOf_congr
  intro slot member
  rw [lookup_eq slot member, written_or_default, same]

/-! ## Values by name -/

/-- Keys for which values can be given by name, beside the values given so far. -/
structure Nameable (shape : Shape) (given : List (Text × Text)) (keys : List Text) : Prop where
  distinct : keys.Nodup
  optional : ∀ key ∈ keys, ∃ slot, shape.slot? key = some slot ∧ slot.isRequired = false
  fresh : ∀ key ∈ keys, given.lookup key = none

theorem nameable_cons_iff {given : List (Text × Text)} {key : Text} {keys : List Text}
    (value : Text) :
    shape.Nameable given (key :: keys) ↔
      (∃ slot, shape.slot? key = some slot ∧ slot.isRequired = false) ∧
        given.lookup key = none ∧ shape.Nameable ((key, value) :: given) keys := by
  constructor
  · rintro ⟨distinct, optional, fresh⟩
    obtain ⟨absent, distinctLater⟩ := List.nodup_cons.mp distinct
    refine ⟨optional key (by simp), fresh key (by simp), distinctLater, ?_, ?_⟩
    · intro other member
      exact optional other (by simp [member])
    · intro other member
      have apart : other ≠ key := fun same => absent (same ▸ member)
      rw [List.lookup_cons, beq_eq_false_iff_ne.mpr apart]
      exact fresh other (by simp [member])
  · rintro ⟨known, free, later⟩
    have keptFresh : ∀ other ∈ keys, other ≠ key ∧ given.lookup other = none := by
      intro other member
      have fresh := later.fresh other member
      by_cases same : other = key
      · simp [same] at fresh
      · rw [List.lookup_cons, beq_eq_false_iff_ne.mpr same] at fresh
        exact ⟨same, fresh⟩
    refine ⟨List.nodup_cons.mpr ⟨?_, later.distinct⟩, ?_, ?_⟩
    · intro member
      exact (keptFresh key member).1 rfl
    · exact List.forall_mem_cons.mpr ⟨known, later.optional⟩
    · exact List.forall_mem_cons.mpr ⟨free, fun other member => (keptFresh other member).2⟩

theorem giveNamed_isOk_iff {given named : List (Text × Text)} :
    (∃ result, shape.giveNamed given named = .ok result) ↔
      shape.Nameable given (named.map Prod.fst) := by
  induction named generalizing given with
  | nil =>
      have nothing : shape.Nameable given [] := ⟨List.nodup_nil, by simp, by simp⟩
      simp [giveNamed, nothing]
  | cons entry named ih =>
      obtain ⟨key, value⟩ := entry
      rw [List.map_cons, nameable_cons_iff value, ← ih, giveNamed]
      cases known : shape.slot? key with
      | none => simp
      | some slot =>
          cases required : slot.isRequired with
          | true => simp [required]
          | false => cases free : given.lookup key <;> simp [required]

/-! ## Values for all slots -/

theorem slot?_eq_some_iff (declared : WellDeclared shape.slots) {key : Text} {slot : Slot} :
    shape.slot? key = some slot ↔ slot ∈ shape.slots ∧ slot.name = key := by
  constructor
  · intro found
    exact ⟨List.mem_of_find?_eq_some found, by simpa using List.find?_some found⟩
  · rintro ⟨member, rfl⟩
    exact declared.find?_name member

theorem lookup_zip_eq_none_iff (declared : WellDeclared shape.slots) {slot : Slot}
    (member : slot ∈ shape.slots) (positional : List Text) :
    ((shape.positional.map (·.name)).zip positional).lookup slot.name = none ↔
      slot ∉ shape.positional.take positional.length := by
  rw [← name_mem_take_iff declared member, List.map_take, ← map_fst_zip_eq_take,
    ← lookup_isSome_iff_mem, Option.not_isSome_iff_eq_none]

theorem nameable_zip_iff (declared : WellDeclared shape.slots) {positional keys : List Text}
    (room : positional.length ≤ shape.positional.length) :
    shape.Nameable ((shape.positional.map (·.name)).zip positional) keys ↔
      shape.Admits positional.length keys := by
  constructor
  · intro nameable
    refine ⟨room, nameable.distinct, fun key member => ?_⟩
    obtain ⟨slot, found, optional⟩ := nameable.optional key member
    obtain ⟨slotMember, rfl⟩ := (slot?_eq_some_iff declared).mp found
    have fresh := nameable.fresh _ member
    exact ⟨slot, slotMember, rfl, optional,
      (lookup_zip_eq_none_iff declared slotMember positional).mp fresh⟩
  · intro admits
    refine ⟨admits.distinct, fun key member => ?_, fun key member => ?_⟩
    · obtain ⟨slot, slotMember, named, optional, -⟩ := admits.unfilled key member
      exact ⟨slot, (slot?_eq_some_iff declared).mpr ⟨slotMember, named⟩, optional⟩
    · obtain ⟨slot, slotMember, rfl, -, unfilled⟩ := admits.unfilled key member
      exact (lookup_zip_eq_none_iff declared slotMember positional).mpr unfilled

/-- A required slot has a value only if it is given by position. -/
theorem find?_missing_eq_none_iff (declared : WellDeclared shape.slots) {positional : List Text}
    {named result : List (Text × Text)}
    (room : positional.length ≤ shape.positional.length)
    (made : shape.giveNamed ((shape.positional.map (·.name)).zip positional) named = .ok result) :
    shape.required.find? (fun slot => (result.lookup slot.name).isNone) = none ↔
      shape.required.length ≤ positional.length := by
  obtain ⟨rfl, -⟩ := giveNamed_eq_ok made (nodup_keys_zip declared.nodup_names positional)
  have admits := (nameable_zip_iff declared room).mp (giveNamed_isOk_iff.mp ⟨_, made⟩)
  have given_iff (slot : Slot) (member : slot ∈ shape.required) :
      ((named.reverse ++ (shape.positional.map (·.name)).zip positional).lookup
        slot.name).isSome = true ↔ slot ∈ shape.positional.take positional.length := by
    have slotMember := List.mem_of_mem_filter member
    have notByName := admits.not_mem_of_required declared member
    have unfilled := lookup_zip_eq_none_iff declared slotMember positional
    rw [List.lookup_append, Option.isSome_or, Bool.or_eq_true, lookup_isSome_iff_mem,
      List.map_reverse, List.mem_reverse, or_iff_right notByName]
    rw [← not_iff_not, Option.not_isSome_iff_eq_none]
    exact unfilled
  rw [List.find?_eq_none, ← forall_required_mem_take_iff declared]
  refine forall₂_congr fun slot member => ?_
  rw [← given_iff slot member]
  simp

theorem given_isOk_iff (declared : WellDeclared shape.slots) {positional : List Text}
    {named : List (Text × Text)} :
    (∃ values, shape.given positional named = .ok values) ↔
      shape.Fits positional.length (named.map Prod.fst) := by
  unfold given
  split
  next full =>
    have noRoom : ¬shape.Fits positional.length (named.map Prod.fst) := fun fits =>
      absurd fits.room (by omega)
    simp [noRoom]
  next fits =>
    have room : positional.length ≤ shape.positional.length := by omega
    have admits_iff : (∃ result, shape.giveNamed
        ((shape.positional.map (·.name)).zip positional) named = .ok result) ↔
          shape.Admits positional.length (named.map Prod.fst) :=
      giveNamed_isOk_iff.trans (nameable_zip_iff declared room)
    split
    next fault refused =>
      have notAdmits : ¬shape.Admits positional.length (named.map Prod.fst) := by
        intro admits
        obtain ⟨result, made⟩ := admits_iff.mpr admits
        rw [refused] at made
        cases made
      exact iff_of_false (by simp) fun fits => notAdmits fits.toAdmits
    next result made =>
      have admits := admits_iff.mp ⟨result, made⟩
      have complete_iff := find?_missing_eq_none_iff declared room made
      split
      next slot missing =>
        rw [missing] at complete_iff
        refine iff_of_false (by simp) fun fits => ?_
        cases complete_iff.mpr fits.enough
      next complete =>
        exact iff_of_true ⟨result, rfl⟩ ⟨admits, complete_iff.mp complete⟩

/-! ## Units -/

theorem written_supplied (declared : WellDeclared shape.slots) {positional : List Text}
    {named values : List (Text × Text)} (ok : shape.given positional named = .ok values)
    (mode : ProductionMode) :
    written mode (shape.supplied positional named) = written mode values := by
  obtain ⟨-, same, -⟩ := given_eq_ok declared.nodup_names ok
  funext slot
  unfold written
  rw [same]

theorem producedItems_isOk_iff (declared : WellDeclared shape.slots)
    (fixed : shape.isVariadic = false) {mode : ProductionMode} {positional : List Text}
    {named : List (Text × Text)} :
    (∃ items, shape.producedItems grammar mode positional named = .ok items) ↔
      shape.Fits positional.length (named.map Prod.fst) ∧
      (grammar.multiline = false → ∀ slot ∈ shape.slots, ∀ value,
        written mode (shape.supplied positional named) slot = some value → '\n' ∉ value) := by
  rw [← given_isOk_iff declared]
  unfold producedItems
  rw [if_neg (by simp [fixed])]
  cases ok : shape.given positional named with
  | error fault => simp
  | ok values =>
      rw [written_supplied declared ok]
      rw [← find?_lineBreak_eq_none_iff]
      simp only [Except.ok.injEq, exists_eq', true_and]
      split
      next value broken => exact iff_of_false (by simp) (by rw [broken]; simp)
      next sameLine => exact iff_of_true ⟨_, rfl⟩ sameLine

/-- A declared shape can be given values exactly if it would bind their escaped
texts, however these are guarded, and the values written stay on one line where
the grammar asks for that. -/
theorem produce_isOk_iff {slots : List Slot} {acceptsContext : Bool}
    (declared : Shape.declare slots acceptsContext = .ok shape) (grammar : Grammar) (callee : Text)
    (mode : ProductionMode) (positional : List Text) (named : List (Text × Text))
    (guardPositional guardNamed : Bool) :
    ((∃ unit, shape.produce grammar callee mode positional named = .ok unit) ↔
      (∃ call, shape.bind grammar
        (itemsOf (positional.map (grammar.escapeValue guardPositional))
          (named.map fun entry => (entry.1, grammar.escapeValue guardNamed entry.2))) =
            .ok call) ∧
      (grammar.multiline = false → ∀ slot ∈ shape.slots, ∀ value,
        written mode (shape.supplied positional named) slot = some value → '\n' ∉ value)) ∧
    ∀ fault, shape.produce grammar callee mode positional named = .error fault →
      (fault.report callee).category = .production := by
  have wellDeclared := wellDeclared_of_declare declared
  have fixed : shape.isVariadic = false := by
    obtain ⟨-, rfl⟩ := Shape.declare_eq_ok_iff.mp declared
    rfl
  refine ⟨?_, fun fault _ => rfl⟩
  have unit_iff : (∃ unit, shape.produce grammar callee mode positional named = .ok unit) ↔
      ∃ items, shape.producedItems grammar mode positional named = .ok items := by
    unfold produce
    cases shape.producedItems grammar mode positional named <;> simp [Except.map]
  rw [unit_iff, producedItems_isOk_iff wellDeclared fixed, bind_of_declare declared,
    bindSlots_itemsOf_isOk_iff wellDeclared, List.length_map, List.map_map]
  rfl

/-! ## A default of two lines -/

/-- The second slot takes a line feed unless it gets another value. -/
def linesSlots : List Slot :=
  [⟨['a'], .required, none⟩, ⟨['b'], .optional, some ['\n']⟩]

def lines : Shape :=
  { parameters := .fixed linesSlots }

/-- The default is in the way only where it is written. -/
theorem lines_produce :
    Shape.declare linesSlots = .ok lines ∧
      (∃ unit, lines.produce Grammar.default ['f'] .minimal [['x']] [] = .ok unit) ∧
      ¬(∃ unit, lines.produce Grammar.default ['f'] .exhaustive [['x']] [] = .ok unit) ∧
      ∃ call, lines.bind Grammar.default (itemsOf [['x']] []) = .ok call := by
  have declared : Shape.declare linesSlots = .ok lines := by rfl
  have agrees (mode : ProductionMode) :=
    (produce_isOk_iff declared Grammar.default ['f'] mode [['x']] [] true false).1
  have bound : ∃ call, lines.bind Grammar.default (itemsOf [['x']] []) = .ok call := ⟨_, rfl⟩
  refine ⟨declared, (agrees .minimal).mpr ⟨bound, fun _ => by decide⟩, fun written => ?_, bound⟩
  have sameLine := ((agrees .exhaustive).mp written).2 rfl ⟨['b'], .optional, some ['\n']⟩
    (by decide) ['\n'] rfl
  exact sameLine (List.mem_singleton_self _)

end CallMarkup.Shape
