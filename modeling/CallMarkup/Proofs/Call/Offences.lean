import CallMarkup.Proofs.Call.Binding
import Mathlib.Data.List.Induction

/-!
# Items that offend

Whether an item of an argument list is at fault depends on the items before it:
on how many positional ones there are and on the keys of the others.  Items
among which none offends are positional ones followed by keyword items for
slots that are open.
-/

namespace CallMarkup

/-! ## Items by kind -/

/-- Positional items followed by keyword items. -/
def itemsOf (texts : List Text) (entries : List (Text × Text)) : List Item :=
  texts.map .positional ++ entries.map fun entry => .keyword entry.1 entry.2

def positionalTexts (items : List Item) : List Text :=
  items.filterMap fun
    | .positional text => some text
    | .keyword _ _ => none

def keywordEntries (items : List Item) : List (Text × Text) :=
  items.filterMap fun
    | .positional _ => none
    | .keyword key text => some (key, text)

@[simp]
theorem positionalTexts_append (first second : List Item) :
    positionalTexts (first ++ second) = positionalTexts first ++ positionalTexts second :=
  List.filterMap_append

@[simp]
theorem keywordEntries_append (first second : List Item) :
    keywordEntries (first ++ second) = keywordEntries first ++ keywordEntries second :=
  List.filterMap_append

@[simp]
theorem positionalTexts_positional (text : Text) : positionalTexts [.positional text] = [text] :=
  rfl

@[simp]
theorem positionalTexts_keyword (key text : Text) : positionalTexts [.keyword key text] = [] :=
  rfl

@[simp]
theorem keywordEntries_positional (text : Text) : keywordEntries [.positional text] = [] :=
  rfl

@[simp]
theorem keywordEntries_keyword (key text : Text) :
    keywordEntries [.keyword key text] = [(key, text)] :=
  rfl

@[simp]
theorem positionalTexts_itemsOf (texts : List Text) (entries : List (Text × Text)) :
    positionalTexts (itemsOf texts entries) = texts := by
  simp [positionalTexts, itemsOf, List.filterMap_append, List.filterMap_map]

@[simp]
theorem keywordEntries_itemsOf (texts : List Text) (entries : List (Text × Text)) :
    keywordEntries (itemsOf texts entries) = entries := by
  simp [keywordEntries, itemsOf, List.filterMap_append, List.filterMap_map]

theorem itemsOf_concat_positional (texts : List Text) (text : Text) :
    itemsOf (texts ++ [text]) [] = itemsOf texts [] ++ [.positional text] := by
  simp [itemsOf]

theorem itemsOf_concat_keyword (texts : List Text) (entries : List (Text × Text))
    (entry : Text × Text) :
    itemsOf texts (entries ++ [entry]) = itemsOf texts entries ++ [.keyword entry.1 entry.2] := by
  simp [itemsOf]

namespace Shape

variable {shape : Shape} {grammar : Grammar}

/-! ## Required slots come first -/

theorem required_prefix_positional (declared : WellDeclared shape.slots) :
    shape.required <+: shape.positional := by
  unfold Shape.required Shape.positional
  have ordered : shape.slots.Pairwise Slot.MayFollow := declared.pairwise
  generalize shape.slots = slots at ordered
  clear declared
  induction slots with
  | nil => exact List.nil_prefix
  | cons slot slots ih =>
      obtain ⟨follow, laterOrdered⟩ := List.pairwise_cons.mp ordered
      have later := ih laterOrdered
      cases kind : slot.kind with
      | required =>
          have required : slot.isRequired = true := by simp [Slot.isRequired, kind]
          have positional : slot.isPositional = true := by simp [Slot.isPositional, kind]
          rw [List.filter_cons_of_pos required, List.filter_cons_of_pos positional]
          exact List.cons_prefix_cons.mpr ⟨rfl, later⟩
      | optional =>
          have noneRequired : (slot :: slots).filter (·.isRequired) = [] := by
            apply List.filter_eq_nil_iff.mpr
            intro other member
            rcases List.mem_cons.mp member with rfl | member
            · simp [Slot.isRequired, kind]
            · simp [Slot.isRequired, (follow other member).2 kind]
          rw [noneRequired]
          exact List.nil_prefix
      | named =>
          have optional : ¬slot.isRequired = true := by simp [Slot.isRequired, kind]
          have byName : ¬slot.isPositional = true := by simp [Slot.isPositional, kind]
          rw [List.filter_cons_of_neg optional, List.filter_cons_of_neg byName]
          exact later

theorem nodup_positional (declared : WellDeclared shape.slots) : shape.positional.Nodup :=
  (List.Nodup.of_map _ declared.nodup_names).sublist List.filter_sublist

/-- The required slots that so many positional items leave over. -/
theorem filter_required (declared : WellDeclared shape.slots) (count : Nat) :
    shape.required.filter (fun slot => slot ∉ shape.positional.take count) =
      shape.required.drop count := by
  obtain ⟨others, positional⟩ := required_prefix_positional declared
  have distinct : (shape.required ++ others).Nodup := positional ▸ nodup_positional declared
  have filled : ∀ slot ∈ shape.required.take count, slot ∈ shape.positional.take count := by
    intro slot member
    rw [← positional, List.take_append]
    exact List.mem_append_left _ member
  have unfilled : ∀ slot ∈ shape.required.drop count, slot ∉ shape.positional.take count := by
    intro slot member inTake
    rw [← positional, List.take_append] at inTake
    rcases List.mem_append.mp inTake with early | other
    · rw [← List.take_append_drop count shape.required, List.append_assoc] at distinct
      exact (List.nodup_append.mp distinct).2.2 slot early slot (by simp [member]) rfl
    · exact (List.nodup_append.mp distinct).2.2 slot (List.mem_of_mem_drop member) slot
        (List.mem_of_mem_take other) rfl
  conv_lhs => rw [← List.take_append_drop count shape.required, List.filter_append]
  rw [List.filter_eq_nil_iff.mpr fun slot member => by simpa using filled slot member,
    List.filter_eq_self.mpr fun slot member => by simpa using unfilled slot member,
    List.nil_append]

theorem forall_required_mem_take_iff (declared : WellDeclared shape.slots) {count : Nat} :
    (∀ slot ∈ shape.required, slot ∈ shape.positional.take count) ↔
      shape.required.length ≤ count := by
  rw [← List.drop_eq_nil_iff, ← filter_required declared, List.filter_eq_nil_iff]
  simp

/-! ## Items that offend -/

/-- Whether the items read so far have filled a slot. -/
def Filled (shape : Shape) (before : List Item) (slot : Slot) : Prop :=
  slot ∈ shape.positional.take (positionalTexts before).length ∨
    slot.name ∈ (keywordEntries before).map Prod.fst

/-- What an item does wrong after the items before it. -/
inductive Offends (shape : Shape) (before : List Item) : Item → BindingFault → Prop
  | afterKeyword {text : Text} (closed : keywordEntries before ≠ []) :
      Offends shape before (.positional text) (.positionalAfterKeyword text)
  | tooMany {text : Text} (none : keywordEntries before = [])
      (full : shape.positional.length ≤ (positionalTexts before).length) :
      Offends shape before (.positional text) (.arityTooHigh shape.positional.length)
  | unknown {key text : Text} (absent : ∀ slot ∈ shape.slots, slot.name ≠ key) :
      Offends shape before (.keyword key text) (.unknownKeyword key)
  | filled {slot : Slot} {key text : Text} (member : slot ∈ shape.slots) (named : slot.name = key)
      (filled : shape.Filled before slot) :
      Offends shape before (.keyword key text) (.duplicateBinding key)
  | required {slot : Slot} {key text : Text} (member : slot ∈ shape.slots)
      (named : slot.name = key) (unfilled : ¬shape.Filled before slot)
      (required : slot.isRequired = true) :
      Offends shape before (.keyword key text) (.positionalOnly key)

/-- No item offends after those before it. -/
def Faultless (shape : Shape) (items : List Item) : Prop :=
  ∀ before item after, items = before ++ item :: after → ∀ fault, ¬shape.Offends before item fault

/-- The fault of the first item that offends. -/
def FirstOffence (shape : Shape) (items : List Item) (fault : BindingFault) : Prop :=
  ∃ before item after, items = before ++ item :: after ∧ shape.Faultless before ∧
    shape.Offends before item fault

theorem faultless_nil (shape : Shape) : shape.Faultless [] := by
  intro before item after split
  simp at split

theorem faultless_concat_iff {items : List Item} {item : Item} :
    shape.Faultless (items ++ [item]) ↔
      shape.Faultless items ∧ ∀ fault, ¬shape.Offends items item fault := by
  constructor
  · intro faultless
    refine ⟨fun before other after split => ?_, faultless items item [] rfl⟩
    exact faultless before other (after ++ [item]) (by simp [split])
  · rintro ⟨faultless, last⟩ before other after split
    rcases List.eq_nil_or_concat after with rfl | ⟨after, final, rfl⟩
    · obtain ⟨rfl, same⟩ := List.append_inj' split rfl
      obtain rfl := List.singleton_inj.mp same
      exact last
    · have parts : items ++ [item] = (before ++ other :: after) ++ [final] := by simp [split]
      obtain ⟨rfl, -⟩ := List.append_inj' parts rfl
      exact faultless before other after rfl

theorem faultless_or_firstOffence (shape : Shape) (items : List Item) :
    shape.Faultless items ∨ ∃ fault, shape.FirstOffence items fault := by
  induction items using List.reverseRecOn with
  | nil => exact .inl shape.faultless_nil
  | append_singleton items item ih =>
      rcases ih with faultless | ⟨fault, before, other, after, rfl, faultless, offends⟩
      · by_cases clean : ∀ fault, ¬shape.Offends items item fault
        · exact .inl (faultless_concat_iff.mpr ⟨faultless, clean⟩)
        · obtain ⟨fault, offends⟩ := not_forall_not.mp clean
          exact .inr ⟨fault, items, item, [], rfl, faultless, offends⟩
      · exact .inr ⟨fault, before, other, after ++ [item], by simp, faultless, offends⟩

theorem room_of_clean {items : List Item} {text : Text}
    (clean : ∀ fault, ¬shape.Offends items (.positional text) fault) :
    keywordEntries items = [] ∧ (positionalTexts items).length < shape.positional.length := by
  have none : keywordEntries items = [] := by
    by_contra closed
    exact clean _ (.afterKeyword closed)
  refine ⟨none, ?_⟩
  by_contra full
  exact clean _ (.tooMany none (by simpa using full))

theorem slot_of_clean {items : List Item} {key text : Text}
    (clean : ∀ fault, ¬shape.Offends items (.keyword key text) fault) :
    ∃ slot ∈ shape.slots, slot.name = key ∧ slot.isRequired = false ∧
      ¬shape.Filled items slot := by
  have known : ∃ slot ∈ shape.slots, slot.name = key := by
    by_contra absent
    exact clean _ (.unknown fun slot member named => absent ⟨slot, member, named⟩)
  obtain ⟨slot, member, named⟩ := known
  have unfilled : ¬shape.Filled items slot := fun filled => clean _ (.filled member named filled)
  refine ⟨slot, member, named, ?_, unfilled⟩
  by_contra required
  exact clean _ (.required member named unfilled (by simpa using required))

/-! ## Items without offence -/

/-- Whether so many positional items and keyword items with these keys can be read
without offence. -/
structure Admits (shape : Shape) (count : Nat) (keys : List Text) : Prop where
  room : count ≤ shape.positional.length
  distinct : keys.Nodup
  unfilled : ∀ key ∈ keys, ∃ slot ∈ shape.slots, slot.name = key ∧ slot.isRequired = false ∧
    slot ∉ shape.positional.take count

theorem Admits.of_mem (declared : WellDeclared shape.slots) {count : Nat} {keys : List Text}
    (admits : shape.Admits count keys) {slot : Slot} (member : slot ∈ shape.slots)
    (inKeys : slot.name ∈ keys) :
    slot.isRequired = false ∧ slot ∉ shape.positional.take count := by
  obtain ⟨other, otherMember, same, optional, unfilled⟩ := admits.unfilled _ inKeys
  obtain rfl := declared.eq_of_name_eq otherMember member same
  exact ⟨optional, unfilled⟩

theorem Admits.not_mem_of_required (declared : WellDeclared shape.slots) {count : Nat}
    {keys : List Text} (admits : shape.Admits count keys) {slot : Slot}
    (member : slot ∈ shape.required) : slot.name ∉ keys := by
  intro inKeys
  obtain ⟨slotMember, required⟩ := List.mem_filter.mp member
  rw [(admits.of_mem declared slotMember inKeys).1] at required
  cases required

theorem exists_itemsOf_of_faultless {items : List Item} (faultless : shape.Faultless items) :
    ∃ texts entries, items = itemsOf texts entries ∧
      shape.Admits texts.length (entries.map Prod.fst) := by
  induction items using List.reverseRecOn with
  | nil => exact ⟨[], [], rfl, Nat.zero_le _, List.nodup_nil, by simp⟩
  | append_singleton items item ih =>
      obtain ⟨earlier, clean⟩ := faultless_concat_iff.mp faultless
      obtain ⟨texts, entries, rfl, admits⟩ := ih earlier
      cases item with
      | positional text =>
          obtain ⟨none, space⟩ := room_of_clean clean
          simp only [positionalTexts_itemsOf, keywordEntries_itemsOf] at none space
          subst none
          refine ⟨texts ++ [text], [], itemsOf_concat_positional texts text |>.symm, ?_⟩
          exact ⟨by simpa [Nat.add_one_le_iff] using space, List.nodup_nil, by simp⟩
      | keyword key text =>
          obtain ⟨slot, member, named, optional, unfilled⟩ := slot_of_clean clean
          simp only [Filled, positionalTexts_itemsOf, keywordEntries_itemsOf, not_or] at unfilled
          refine ⟨texts, entries ++ [(key, text)], itemsOf_concat_keyword texts entries (key, text)
            |>.symm, admits.room, ?_, ?_⟩
          · rw [List.map_append, List.nodup_append]
            refine ⟨admits.distinct, by simp, ?_⟩
            rintro other inEarlier _ last rfl
            obtain rfl : other = key := by simpa using last
            exact unfilled.2 (named ▸ inEarlier)
          · intro other inKeys
            rw [List.map_append, List.mem_append] at inKeys
            rcases inKeys with inEarlier | last
            · exact admits.unfilled other inEarlier
            · obtain rfl : other = key := by simpa using last
              exact ⟨slot, member, named, optional, unfilled.1⟩

theorem faultless_of_admits (declared : WellDeclared shape.slots) {texts : List Text}
    {entries : List (Text × Text)} (admits : shape.Admits texts.length (entries.map Prod.fst)) :
    shape.Faultless (itemsOf texts entries) := by
  induction entries using List.reverseRecOn with
  | nil =>
      have room : texts.length ≤ shape.positional.length := admits.room
      clear admits
      induction texts using List.reverseRecOn with
      | nil => exact shape.faultless_nil
      | append_singleton texts text ih =>
          rw [List.length_append, List.length_singleton] at room
          rw [itemsOf_concat_positional]
          refine faultless_concat_iff.mpr ⟨ih (by omega), fun fault offends => ?_⟩
          cases offends with
          | afterKeyword closed => simp at closed
          | tooMany none full =>
              rw [positionalTexts_itemsOf] at full
              omega
  | append_singleton entries entry ih =>
      have earlier : shape.Admits texts.length (entries.map Prod.fst) := by
        refine ⟨admits.room, ?_, fun key member => admits.unfilled key (by simp [member])⟩
        exact admits.distinct.sublist ((List.sublist_append_left _ _).map _)
      have fresh : entry.1 ∉ entries.map Prod.fst := by
        intro member
        have distinct := admits.distinct
        rw [List.map_append, List.nodup_append] at distinct
        exact distinct.2.2 _ member _ (by simp) rfl
      have inKeys : entry.1 ∈ (entries ++ [entry]).map Prod.fst := by simp
      rw [itemsOf_concat_keyword]
      refine faultless_concat_iff.mpr ⟨ih earlier, fun fault offends => ?_⟩
      cases offends with
      | unknown absent =>
          obtain ⟨slot, member, named, -⟩ := admits.unfilled _ inKeys
          exact absent slot member named
      | filled member named filled =>
          rcases filled with byPosition | byName
          · rw [positionalTexts_itemsOf] at byPosition
            exact (admits.of_mem declared member (named ▸ inKeys)).2 byPosition
          · exact fresh (by simpa [named] using byName)
      | required member named _ required =>
          rw [(admits.of_mem declared member (named ▸ inKeys)).1] at required
          cases required

theorem faultless_itemsOf_iff (declared : WellDeclared shape.slots) {texts : List Text}
    {entries : List (Text × Text)} :
    shape.Faultless (itemsOf texts entries) ↔
      shape.Admits texts.length (entries.map Prod.fst) := by
  refine ⟨fun faultless => ?_, faultless_of_admits declared⟩
  obtain ⟨otherTexts, otherEntries, same, admits⟩ := exists_itemsOf_of_faultless faultless
  have sameTexts := congrArg positionalTexts same
  have sameEntries := congrArg keywordEntries same
  simp only [positionalTexts_itemsOf] at sameTexts
  simp only [keywordEntries_itemsOf] at sameEntries
  rw [sameTexts, sameEntries]
  exact admits

theorem room_of_faultless {items : List Item} (faultless : shape.Faultless items) :
    (positionalTexts items).length ≤ shape.positional.length := by
  obtain ⟨texts, entries, rfl, admits⟩ := exists_itemsOf_of_faultless faultless
  rw [positionalTexts_itemsOf]
  exact admits.room

end Shape

end CallMarkup
