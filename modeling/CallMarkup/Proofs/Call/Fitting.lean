import CallMarkup.Proofs.Call.Offences
import CallMarkup.Proofs.Call.Production

/-!
# Items that fit a shape

The binder reads items from left to right and stops at the first one that
offends.  `Reads` says what its state is after items without offence, item by
item.  Such items bind unless a required slot is left over, and `bind_exact`
says to which call, and which fault is reported otherwise.
-/

namespace CallMarkup

namespace Shape

variable {shape : Shape} {grammar : Grammar}

/-! ## The state of the binder -/

/-- What the items supply, by slot name, in their order. -/
def valuesRead (shape : Shape) (grammar : Grammar) (items : List Item) : List (Text × Text) :=
  shape.supplied ((positionalTexts items).map grammar.unescape)
    ((keywordEntries items).map fun entry => (entry.1, grammar.unescape entry.2))

/-- The state of the binder after some items. -/
structure Reads (shape : Shape) (grammar : Grammar) (items : List Item) (supply : Supply) :
    Prop where
  seen : supply.keywordSeen = true ↔ keywordEntries items ≠ []
  pending : supply.pending = shape.positional.drop (positionalTexts items).length
  values : supply.values = (shape.valuesRead grammar items).reverse

theorem map_fst_valuesRead (items : List Item) :
    (shape.valuesRead grammar items).map Prod.fst =
      (shape.positional.take (positionalTexts items).length).map (·.name) ++
        (keywordEntries items).map Prod.fst := by
  rw [valuesRead, supplied, List.map_append, map_fst_zip_eq_take, List.length_map, ← List.map_take,
    List.map_map]
  rfl

theorem name_mem_take_iff (declared : WellDeclared shape.slots) {slot : Slot}
    (member : slot ∈ shape.slots) (count : Nat) :
    slot.name ∈ (shape.positional.take count).map (·.name) ↔
      slot ∈ shape.positional.take count := by
  constructor
  · intro inNames
    obtain ⟨other, inTake, same⟩ := List.mem_map.mp inNames
    have otherMember := List.mem_of_mem_filter (List.mem_of_mem_take inTake)
    exact declared.eq_of_name_eq otherMember member same ▸ inTake
  · exact List.mem_map_of_mem

theorem Reads.value?_isSome_iff (declared : WellDeclared shape.slots) {items : List Item}
    {supply : Supply} (reads : shape.Reads grammar items supply) {slot : Slot}
    (member : slot ∈ shape.slots) :
    (supply.value? slot.name).isSome = true ↔ shape.Filled items slot := by
  rw [Supply.value?, lookup_isSome_iff_mem, reads.values, List.map_reverse, List.mem_reverse,
    map_fst_valuesRead, List.mem_append, name_mem_take_iff declared member]
  rfl

theorem reads_start (shape : Shape) (grammar : Grammar) :
    shape.Reads grammar [] { pending := shape.positional } where
  seen := by simp [keywordEntries]
  pending := by simp [positionalTexts]
  values := by simp [valuesRead, supplied, positionalTexts, keywordEntries]

theorem Reads.supplyItem_of_offends (declared : WellDeclared shape.slots) {items : List Item}
    {supply : Supply} (reads : shape.Reads grammar items supply) {item : Item}
    {fault : BindingFault} (offends : shape.Offends items item fault) :
    shape.supplyItem grammar supply item = .error fault := by
  cases offends with
  | afterKeyword closed => simp [supplyItem, reads.seen.mpr closed]
  | tooMany none full =>
      have unseen : ¬supply.keywordSeen = true := by simp [reads.seen, none]
      have nonePending : supply.pending = [] := by
        rw [reads.pending]
        exact List.drop_eq_nil_iff.mpr full
      simp [supplyItem, unseen, nonePending]
  | unknown absent =>
      have noSlot : shape.slot? _ = none := List.find?_eq_none.mpr fun slot member => by
        simpa using absent slot member
      simp [supplyItem, noSlot]
  | filled member named filled =>
      subst named
      have found : shape.slot? _ = some _ := declared.find?_name member
      simp [supplyItem, found, (reads.value?_isSome_iff declared member).mpr filled]
  | required member named unfilled required =>
      subst named
      have found : shape.slot? _ = some _ := declared.find?_name member
      have fresh := mt (reads.value?_isSome_iff declared member).mp unfilled
      simp [supplyItem, found, fresh, required]

theorem supplied_concat {texts : List Text} {slot : Slot} {rest : List Slot}
    (next : shape.positional.drop texts.length = slot :: rest) (text : Text) :
    shape.supplied (texts ++ [text]) [] = shape.supplied texts [] ++ [(slot.name, text)] := by
  have room : texts.length ≤ shape.positional.length := by
    have length := congrArg List.length next
    simp only [List.length_drop, List.length_cons] at length
    omega
  have sameLength : ((shape.positional.take texts.length).map (·.name)).length = texts.length := by
    simp [room]
  have zipped (more : List Text) : (shape.positional.map (·.name)).zip (texts ++ more) =
      ((shape.positional.take texts.length).map (·.name)).zip texts ++
        ((slot :: rest).map (·.name)).zip more := by
    conv_lhs => rw [← List.take_append_drop texts.length shape.positional, next, List.map_append]
    exact List.zip_append sameLength
  have before := zipped []
  rw [List.append_nil] at before
  simp [supplied, zipped [text], before]

theorem Reads.supplyItem_of_clean (declared : WellDeclared shape.slots) {items : List Item}
    {supply : Supply} (reads : shape.Reads grammar items supply) {item : Item}
    (clean : ∀ fault, ¬shape.Offends items item fault) :
    ∃ next, shape.supplyItem grammar supply item = .ok next ∧
      shape.Reads grammar (items ++ [item]) next := by
  cases item with
  | positional text =>
      obtain ⟨none, space⟩ := room_of_clean clean
      have unseen : supply.keywordSeen = false := by
        simpa [none] using reads.seen
      obtain ⟨slot, rest, waiting⟩ := List.exists_cons_of_ne_nil
        (mt List.drop_eq_nil_iff.mp (Nat.not_le.mpr space))
      have dropNext : shape.positional.drop ((positionalTexts items).length + 1) = rest := by
        rw [← List.drop_drop, waiting, List.drop_one, List.tail_cons]
      have waitingToo : shape.positional.drop
          ((positionalTexts items).map grammar.unescape).length = slot :: rest := by
        rwa [List.length_map]
      have values := supplied_concat waitingToo (grammar.unescape text)
      refine ⟨⟨(slot.name, grammar.unescape text) :: supply.values, rest, supply.keywordSeen⟩,
        ?_, ?_, ?_, ?_⟩
      · simp [supplyItem, unseen, reads.pending, waiting]
      · simp [unseen, none]
      · simpa using dropNext.symm
      · simp [valuesRead, reads.values, none, values]
  | keyword key text =>
      obtain ⟨slot, member, rfl, optional, unfilled⟩ := slot_of_clean clean
      have found : shape.slot? slot.name = some slot := declared.find?_name member
      have fresh := mt (reads.value?_isSome_iff declared member).mp unfilled
      refine ⟨⟨(slot.name, grammar.unescape text) :: supply.values, supply.pending, true⟩,
        ?_, ?_, ?_, ?_⟩
      · simp [supplyItem, found, fresh, optional]
      · simp
      · simp [reads.pending]
      · simp [valuesRead, supplied, reads.values]

theorem supplyItems_append (supply : Supply) (first later : List Item) :
    shape.supplyItems grammar supply (first ++ later) =
      match shape.supplyItems grammar supply first with
      | .ok next => shape.supplyItems grammar next later
      | .error fault => .error fault := by
  induction first generalizing supply with
  | nil => rfl
  | cons item first ih =>
      rw [List.cons_append, supplyItems, supplyItems]
      cases shape.supplyItem grammar supply item with
      | ok next => exact ih next
      | error fault => rfl

/-- Without offence all items are read. -/
theorem exists_reads (declared : WellDeclared shape.slots) (grammar : Grammar) {items : List Item}
    (faultless : shape.Faultless items) :
    ∃ supply, shape.supplyItems grammar { pending := shape.positional } items = .ok supply ∧
      shape.Reads grammar items supply := by
  induction items using List.reverseRecOn with
  | nil => exact ⟨_, rfl, reads_start shape grammar⟩
  | append_singleton items item ih =>
      obtain ⟨earlier, clean⟩ := faultless_concat_iff.mp faultless
      obtain ⟨supply, run, reads⟩ := ih earlier
      obtain ⟨next, step, readsNext⟩ := reads.supplyItem_of_clean declared clean
      refine ⟨next, ?_, readsNext⟩
      rw [supplyItems_append, run]
      simp only [supplyItems, step]

/-- The first offence ends the run. -/
theorem supplyItems_of_firstOffence (declared : WellDeclared shape.slots) (grammar : Grammar)
    {items : List Item} {fault : BindingFault} (first : shape.FirstOffence items fault) :
    shape.supplyItems grammar { pending := shape.positional } items = .error fault := by
  obtain ⟨before, item, after, rfl, faultless, offends⟩ := first
  obtain ⟨supply, run, reads⟩ := exists_reads declared grammar faultless
  have step := reads.supplyItem_of_offends declared offends
  rw [supplyItems_append, run]
  simp only [supplyItems, step]

/-! ## What items bind to -/

/-- Whether so many positional items and keyword items with these keys bind. -/
structure Fits (shape : Shape) (count : Nat) (keys : List Text) : Prop extends
    shape.Admits count keys where
  enough : shape.required.length ≤ count

theorem filled_iff_of_required (declared : WellDeclared shape.slots) {items : List Item}
    (faultless : shape.Faultless items) {slot : Slot} (member : slot ∈ shape.required) :
    shape.Filled items slot ↔ slot ∈ shape.positional.take (positionalTexts items).length := by
  refine or_iff_left fun inKeys => ?_
  obtain ⟨texts, entries, rfl, admits⟩ := exists_itemsOf_of_faultless faultless
  rw [keywordEntries_itemsOf] at inKeys
  exact admits.not_mem_of_required declared member inKeys

theorem Reads.missing_eq (declared : WellDeclared shape.slots) {items : List Item}
    {supply : Supply} (reads : shape.Reads grammar items supply)
    (faultless : shape.Faultless items) :
    shape.missing supply =
      (shape.required.drop (positionalTexts items).length).map (·.name) := by
  rw [missing, ← filter_required declared]
  congr 1
  apply List.filter_congr
  intro slot member
  have filled := filled_iff_of_required declared faultless member
  rw [← reads.value?_isSome_iff declared (List.mem_filter.mp member).1] at filled
  rw [Bool.eq_iff_iff, decide_eq_true_iff, ← filled]
  simp

theorem nodup_valuesRead (declared : WellDeclared shape.slots) (grammar : Grammar)
    {items : List Item} (faultless : shape.Faultless items) :
    ((shape.valuesRead grammar items).map Prod.fst).Nodup := by
  obtain ⟨texts, entries, rfl, admits⟩ := exists_itemsOf_of_faultless faultless
  rw [map_fst_valuesRead, positionalTexts_itemsOf, keywordEntries_itemsOf, List.nodup_append]
  refine ⟨?_, admits.distinct, ?_⟩
  · exact declared.nodup_names.sublist
      (((List.take_sublist _ _).trans List.filter_sublist).map _)
  · rintro key inTake _ inKeys rfl
    obtain ⟨slot, inSlots, rfl⟩ := List.mem_map.mp inTake
    have slotMember := List.mem_of_mem_filter (List.mem_of_mem_take inSlots)
    exact (admits.of_mem declared slotMember inKeys).2 inSlots

theorem Reads.argument_eq (declared : WellDeclared shape.slots) {items : List Item}
    {supply : Supply} (reads : shape.Reads grammar items supply)
    (faultless : shape.Faultless items) (slot : Slot) :
    argument supply slot =
      ⟨slot.name, ((shape.valuesRead grammar items).lookup slot.name).or slot.default⟩ := by
  have reversed : supply.values.Perm (shape.valuesRead grammar items) := by
    rw [reads.values]
    exact List.reverse_perm _
  have distinct : (supply.values.map Prod.fst).Nodup :=
    (reversed.map _).nodup_iff.mpr (nodup_valuesRead declared grammar faultless)
  rw [argument, Supply.value?, lookup_perm reversed distinct]

/-- Items without offence bind unless they leave a required slot over. -/
theorem bindSlots_of_faultless (declared : WellDeclared shape.slots) (grammar : Grammar)
    {items : List Item} (faultless : shape.Faultless items) :
    shape.bindSlots grammar items =
      if shape.required.length ≤ (positionalTexts items).length then
        .ok (shape.callOf (shape.valuesRead grammar items))
      else
        .error (.arityTooLow shape.required.length (positionalTexts items).length
          ((shape.required.drop (positionalTexts items).length).map (·.name))) := by
  obtain ⟨supply, run, reads⟩ := exists_reads declared grammar faultless
  have missing := reads.missing_eq declared faultless
  have argument : argument supply = fun slot =>
      ⟨slot.name, ((shape.valuesRead grammar items).lookup slot.name).or slot.default⟩ :=
    funext (reads.argument_eq declared faultless)
  rw [bindSlots, run]
  by_cases enough : shape.required.length ≤ (positionalTexts items).length
  · rw [List.drop_eq_nil_iff.mpr enough, List.map_nil] at missing
    simp only [missing, if_pos enough, argument]
    rfl
  · have given : shape.positional.length - supply.pending.length =
        (positionalTexts items).length := by
      rw [reads.pending, List.length_drop, Nat.sub_sub_self (room_of_faultless faultless)]
    obtain ⟨slot, rest, left⟩ := List.exists_cons_of_ne_nil
      (mt List.drop_eq_nil_iff.mp enough)
    rw [left, List.map_cons] at missing
    rw [if_neg enough, left, List.map_cons]
    simp only [missing, given]

theorem bindSlots_eq_error_iff (declared : WellDeclared shape.slots) (grammar : Grammar)
    {items : List Item} {fault : BindingFault} :
    shape.bindSlots grammar items = .error fault ↔
      shape.FirstOffence items fault ∨
        shape.Faultless items ∧ (positionalTexts items).length < shape.required.length ∧
          fault = .arityTooLow shape.required.length (positionalTexts items).length
            ((shape.required.drop (positionalTexts items).length).map (·.name)) := by
  rcases shape.faultless_or_firstOffence items with faultless | ⟨other, first⟩
  · have noFirst : ¬shape.FirstOffence items fault := by
      rintro ⟨before, item, after, split, -, offends⟩
      exact faultless before item after split fault offends
    rw [bindSlots_of_faultless declared grammar faultless]
    by_cases enough : shape.required.length ≤ (positionalTexts items).length
    · simp [enough, noFirst, Nat.not_lt.mpr enough]
    · simp [enough, noFirst, faultless, Nat.lt_of_not_le enough, eq_comm]
  · have fails : shape.bindSlots grammar items = .error other := by
      rw [bindSlots, supplyItems_of_firstOffence declared grammar first]
    have notFaultless : ¬shape.Faultless items := by
      obtain ⟨before, item, after, split, -, offends⟩ := first
      exact fun faultless => faultless before item after split other offends
    rw [fails, Except.error.injEq]
    constructor
    · rintro rfl
      exact .inl first
    · rintro (firstToo | ⟨faultless, -⟩)
      · have failsToo : shape.bindSlots grammar items = .error fault := by
          rw [bindSlots, supplyItems_of_firstOffence declared grammar firstToo]
        exact Except.error.inj (fails.symm.trans failsToo)
      · exact absurd faultless notFaultless

theorem bindSlots_isOk_iff (declared : WellDeclared shape.slots) (grammar : Grammar)
    {items : List Item} :
    (∃ call, shape.bindSlots grammar items = .ok call) ↔
      shape.Faultless items ∧ shape.required.length ≤ (positionalTexts items).length := by
  rcases shape.faultless_or_firstOffence items with faultless | ⟨fault, first⟩
  · rw [bindSlots_of_faultless declared grammar faultless]
    split
    next enough => simp [faultless, enough]
    next few => simp [few]
  · have fails := (bindSlots_eq_error_iff declared grammar).mpr (.inl first)
    rw [fails]
    obtain ⟨before, item, after, split, -, offends⟩ := first
    refine iff_of_false (by simp) ?_
    rintro ⟨faultless, -⟩
    exact faultless before item after split fault offends

theorem bindSlots_itemsOf_isOk_iff (declared : WellDeclared shape.slots) (grammar : Grammar)
    {texts : List Text} {entries : List (Text × Text)} :
    (∃ call, shape.bindSlots grammar (itemsOf texts entries) = .ok call) ↔
      shape.Fits texts.length (entries.map Prod.fst) := by
  rw [bindSlots_isOk_iff declared, positionalTexts_itemsOf, faultless_itemsOf_iff declared]
  exact ⟨fun both => ⟨both.1, both.2⟩, fun fits => ⟨fits.toAdmits, fits.enough⟩⟩

/-! ## The call -/

/-- What a call gets from positional texts and keyword entries: an argument for
every slot in order, with the value of the item that fills the slot, or else its
default. -/
structure Receives (shape : Shape) (grammar : Grammar) (texts : List Text)
    (entries : List (Text × Text)) (call : BoundCall) : Prop where
  positionalNames : call.positional.map (·.name) = shape.positional.map (·.name)
  namedNames : call.named.map (·.name) = shape.named.map (·.name)
  byPosition : ∀ (index : Nat) (text : Text), texts[index]? = some text →
    ∃ slot, shape.positional[index]? = some slot ∧
      call.positional[index]? = some ⟨slot.name, some (grammar.unescape text)⟩
  byName : ∀ entry ∈ entries, ⟨entry.1, some (grammar.unescape entry.2)⟩ ∈ call.toList
  byDefault : ∀ slot ∈ shape.slots, ¬shape.Filled (itemsOf texts entries) slot →
    ⟨slot.name, slot.default⟩ ∈ call.toList

theorem mem_toList_callOf {slot : Slot} (member : slot ∈ shape.slots)
    (values : List (Text × Text)) :
    ⟨slot.name, (values.lookup slot.name).or slot.default⟩ ∈ (shape.callOf values).toList := by
  rw [BoundCall.toList, List.mem_append]
  cases positional : slot.isPositional with
  | true => exact .inl (List.mem_map.mpr ⟨slot, List.mem_filter.mpr ⟨member, positional⟩, rfl⟩)
  | false =>
      have byName : slot ∈ shape.named := List.mem_filter.mpr ⟨member, by simp [positional]⟩
      exact .inr (List.mem_map.mpr ⟨slot, byName, rfl⟩)

theorem get?_callOf (declared : WellDeclared shape.slots) {slot : Slot}
    (member : slot ∈ shape.slots) (values : List (Text × Text)) :
    (shape.callOf values).get? slot.name = (values.lookup slot.name).or slot.default := by
  have names : (shape.callOf values).names = (shape.positional ++ shape.named).map (·.name) := by
    simp [BoundCall.names, BoundCall.toList, callOf, Function.comp_def]
  have distinct := BoundCall.nodup_names declared.nodup_names names
  exact BoundCall.get?_of_mem distinct (mem_toList_callOf member values)

theorem receives_callOf (declared : WellDeclared shape.slots) (grammar : Grammar)
    {texts : List Text} {entries : List (Text × Text)}
    (fits : shape.Fits texts.length (entries.map Prod.fst)) :
    shape.Receives grammar texts entries
      (shape.callOf (shape.valuesRead grammar (itemsOf texts entries))) := by
  have faultless : shape.Faultless (itemsOf texts entries) :=
    faultless_of_admits declared fits.toAdmits
  have distinct := nodup_valuesRead declared grammar faultless
  constructor
  · simp [callOf, Function.comp_def]
  · simp [callOf, Function.comp_def]
  · intro index text here
    have inTexts : index < texts.length := (List.getElem?_eq_some_iff.mp here).1
    obtain ⟨slot, atIndex⟩ : ∃ slot, shape.positional[index]? = some slot :=
      ⟨_, List.getElem?_eq_getElem (Nat.lt_of_lt_of_le inTexts fits.room)⟩
    have supplied : (slot.name, grammar.unescape text) ∈
        shape.valuesRead grammar (itemsOf texts entries) := by
      apply List.mem_append_left
      apply List.mem_of_getElem? (i := index)
      rw [List.getElem?_zip_eq_some]
      simp [atIndex, here]
    refine ⟨slot, atIndex, ?_⟩
    simp [callOf, atIndex, (lookup_eq_some_iff_mem distinct).mpr supplied]
  · intro entry member
    obtain ⟨slot, slotMember, named, -, -⟩ := fits.unfilled entry.1 (List.mem_map_of_mem member)
    have supplied : (entry.1, grammar.unescape entry.2) ∈
        shape.valuesRead grammar (itemsOf texts entries) := by
      apply List.mem_append_right
      rw [keywordEntries_itemsOf]
      exact List.mem_map.mpr ⟨entry, member, rfl⟩
    have received := mem_toList_callOf slotMember (shape.valuesRead grammar (itemsOf texts entries))
    rw [named, (lookup_eq_some_iff_mem distinct).mpr supplied] at received
    exact received
  · intro slot member unfilled
    have absent : (shape.valuesRead grammar (itemsOf texts entries)).lookup slot.name = none := by
      rw [← Option.not_isSome_iff_eq_none, lookup_isSome_iff_mem, map_fst_valuesRead,
        List.mem_append, positionalTexts_itemsOf, name_mem_take_iff declared member]
      simpa [Filled] using unfilled
    have received := mem_toList_callOf member (shape.valuesRead grammar (itemsOf texts entries))
    rw [absent] at received
    exact received

theorem bindSlots_itemsOf (declared : WellDeclared shape.slots) (grammar : Grammar)
    {texts : List Text} {entries : List (Text × Text)}
    (fits : shape.Fits texts.length (entries.map Prod.fst)) :
    shape.bindSlots grammar (itemsOf texts entries) =
      .ok (shape.callOf (shape.valuesRead grammar (itemsOf texts entries))) := by
  rw [bindSlots_of_faultless declared grammar (faultless_of_admits declared fits.toAdmits),
    positionalTexts_itemsOf, if_pos fits.enough]

theorem Fits.perm {count : Nat} {keys others : List Text} (fits : shape.Fits count keys)
    (same : others.Perm keys) : shape.Fits count others where
  room := fits.room
  distinct := same.nodup_iff.mpr fits.distinct
  unfilled := fun key member => fits.unfilled key (same.mem_iff.mp member)
  enough := fits.enough

theorem callOf_congr {first second : List (Text × Text)}
    (same : ∀ slot ∈ shape.slots, (first.lookup slot.name).or slot.default =
      (second.lookup slot.name).or slot.default) : shape.callOf first = shape.callOf second := by
  unfold callOf
  congr 1
  · refine List.map_congr_left fun slot member => ?_
    rw [same slot (List.mem_of_mem_filter member)]
  · refine List.map_congr_left fun slot member => ?_
    rw [same slot (List.mem_of_mem_filter member)]

/-- The order of keyword items does not matter. -/
theorem bindSlots_itemsOf_perm (declared : WellDeclared shape.slots) (grammar : Grammar)
    {texts : List Text} {entries others : List (Text × Text)}
    (fits : shape.Fits texts.length (entries.map Prod.fst)) (same : others.Perm entries) :
    shape.bindSlots grammar (itemsOf texts others) =
      shape.bindSlots grammar (itemsOf texts entries) := by
  have fitsToo : shape.Fits texts.length (others.map Prod.fst) := fits.perm (same.map _)
  have distinct := nodup_valuesRead declared grammar (faultless_of_admits declared fitsToo.toAdmits)
  have sameValues : (shape.valuesRead grammar (itemsOf texts others)).Perm
      (shape.valuesRead grammar (itemsOf texts entries)) := by
    simp only [valuesRead, supplied, positionalTexts_itemsOf, keywordEntries_itemsOf]
    exact (same.map _).append_left _
  rw [bindSlots_itemsOf declared grammar fitsToo, bindSlots_itemsOf declared grammar fits]
  congr 1
  apply callOf_congr
  intro slot _
  rw [lookup_perm sameValues distinct]

theorem wellDeclared_of_declare {slots : List Slot} {acceptsContext : Bool}
    (declared : Shape.declare slots acceptsContext = .ok shape) : WellDeclared shape.slots := by
  obtain ⟨wellDeclared, rfl⟩ := Shape.declare_eq_ok_iff.mp declared
  exact wellDeclared

theorem bind_of_declare {slots : List Slot} {acceptsContext : Bool}
    (declared : Shape.declare slots acceptsContext = .ok shape) (grammar : Grammar)
    (items : List Item) : shape.bind grammar items = shape.bindSlots grammar items := by
  obtain ⟨-, rfl⟩ := Shape.declare_eq_ok_iff.mp declared
  rfl

/-- A declared shape accepts exactly the items that fit it, and gives the call
that they describe.  Of other items it reports the first one that offends, and
only if none does that a required slot is left over. -/
theorem bind_exact {slots : List Slot} {acceptsContext : Bool}
    (declared : Shape.declare slots acceptsContext = .ok shape) (grammar : Grammar) :
    (∀ items, (∃ call, shape.bind grammar items = .ok call) ↔
      ∃ texts entries, items = itemsOf texts entries ∧
        shape.Fits texts.length (entries.map Prod.fst)) ∧
    (∀ texts entries call, shape.bind grammar (itemsOf texts entries) = .ok call →
      shape.Receives grammar texts entries call ∧
      ∀ others, others.Perm entries → shape.bind grammar (itemsOf texts others) = .ok call) ∧
    ∀ items fault, shape.bind grammar items = .error fault ↔
      shape.FirstOffence items fault ∨
        shape.Faultless items ∧ (positionalTexts items).length < shape.required.length ∧
          fault = .arityTooLow shape.required.length (positionalTexts items).length
            ((shape.required.drop (positionalTexts items).length).map (·.name)) := by
  have wellDeclared := wellDeclared_of_declare declared
  simp only [bind_of_declare declared grammar]
  refine ⟨fun items => ⟨fun bound => ?_, ?_⟩, fun texts entries call bound => ?_,
    fun items fault => bindSlots_eq_error_iff wellDeclared grammar⟩
  · obtain ⟨faultless, -⟩ := (bindSlots_isOk_iff wellDeclared grammar).mp bound
    obtain ⟨texts, entries, rfl, -⟩ := exists_itemsOf_of_faultless faultless
    exact ⟨texts, entries, rfl, (bindSlots_itemsOf_isOk_iff wellDeclared grammar).mp bound⟩
  · rintro ⟨texts, entries, rfl, fits⟩
    exact (bindSlots_itemsOf_isOk_iff wellDeclared grammar).mpr fits
  · have fits := (bindSlots_itemsOf_isOk_iff wellDeclared grammar).mp ⟨call, bound⟩
    have made := bindSlots_itemsOf wellDeclared grammar fits
    obtain rfl := Except.ok.inj (bound.symm.trans made)
    refine ⟨receives_callOf wellDeclared grammar fits, fun others same => ?_⟩
    rw [bindSlots_itemsOf_perm wellDeclared grammar fits same, bound]

/-! ## Slots of all kinds -/

/-- A required slot, and an optional one after a named one. -/
def mixedSlots : List Slot :=
  [⟨['a'], .required, none⟩, ⟨['n'], .named, some ['0']⟩, ⟨['b'], .optional, some ['1']⟩,
    ⟨['m'], .named, none⟩]

def mixed : Shape :=
  { parameters := .fixed mixedSlots }

/-- The optional slot gets the empty text of its item and not its default.  Once
it is filled, its name is a fault. -/
theorem mixed_bind :
    Shape.declare mixedSlots = .ok mixed ∧
      (∃ call, mixed.bind Grammar.default (itemsOf [['x'], []] [(['m'], ['y'])]) = .ok call ∧
        call.positional = [⟨['a'], some ['x']⟩, ⟨['b'], some []⟩] ∧
        mixed.Receives Grammar.default [['x'], []] [(['m'], ['y'])] call) ∧
      mixed.bind Grammar.default (itemsOf [['x'], []] [(['b'], ['y']), (['z'], ['y'])]) =
        .error (.duplicateBinding ['b']) := by
  have declared : Shape.declare mixedSlots = .ok mixed := by rfl
  have wellDeclared := wellDeclared_of_declare declared
  obtain ⟨accepts, receives, reports⟩ := bind_exact declared Grammar.default
  have filled : mixed.Fits 2 [['m']] :=
    ⟨⟨by decide, by decide, by decide⟩, by decide⟩
  obtain ⟨call, bound⟩ := (accepts _).mpr ⟨[['x'], []], [(['m'], ['y'])], rfl, filled⟩
  have positional : call.positional = [⟨['a'], some ['x']⟩, ⟨['b'], some []⟩] := by
    have same : mixed.bind Grammar.default (itemsOf [['x'], []] [(['m'], ['y'])]) = .ok _ := rfl
    obtain rfl := Except.ok.inj (bound.symm.trans same)
    rfl
  refine ⟨declared, ⟨call, bound, positional, (receives _ _ _ bound).1⟩, ?_⟩
  have clean : mixed.Faultless (itemsOf [['x'], []] []) :=
    faultless_of_admits wellDeclared ⟨by decide, by decide, by decide⟩
  have member : (⟨['b'], .optional, some ['1']⟩ : Slot) ∈ mixed.slots := by decide
  have offends : mixed.Offends (itemsOf [['x'], []] []) (.keyword ['b'] ['y'])
      (.duplicateBinding ['b']) := .filled member rfl (.inl (by decide))
  exact (reports _ _).mpr (.inl ⟨_, _, _, rfl, clean, offends⟩)

end Shape

end CallMarkup
