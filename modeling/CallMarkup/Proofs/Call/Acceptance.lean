import CallMarkup.Proofs.Call.Fitting

/-!
# Which items some shape accepts

A shape accepts items only when the positional ones come first and no key
occurs twice.  Conversely a shape for any arguments accepts such items, and so
does the shape that declares a required slot for each positional item and a
named slot for each key.
-/

namespace CallMarkup

/-- Positional items and then keyword items, no two of them with the same
key. -/
def Orderly (items : List Item) : Prop :=
  ∃ (texts : List Text) (entries : List (Text × Text)),
    items = texts.map .positional ++ entries.map (fun entry => .keyword entry.1 entry.2) ∧
      (entries.map Prod.fst).Nodup

namespace Orderly

/-- Items that may follow others, which may have closed off positional items and
have taken some keys. -/
def After (closed : Prop) (taken : Text → Prop) (items : List Item) : Prop :=
  ∃ (texts : List Text) (entries : List (Text × Text)),
    items = texts.map .positional ++ entries.map (fun entry => .keyword entry.1 entry.2) ∧
      (closed → texts = []) ∧ (entries.map Prod.fst).Nodup ∧ ∀ entry ∈ entries, ¬taken entry.1

variable {closed laterClosed : Prop} {taken laterTaken : Text → Prop} {items : List Item}

theorem After.orderly (after : After closed taken items) : Orderly items := by
  obtain ⟨texts, entries, cut, -, distinct, -⟩ := after
  exact ⟨texts, entries, cut, distinct⟩

theorem After.nil (closed : Prop) (taken : Text → Prop) : After closed taken [] :=
  ⟨[], [], rfl, fun _ => rfl, List.nodup_nil, by simp⟩

theorem After.positional (after : After laterClosed laterTaken items)
    (less : ∀ key, taken key → laterTaken key) (notClosed : ¬closed) (text : Text) :
    After closed taken (.positional text :: items) := by
  obtain ⟨texts, entries, rfl, -, distinct, fresh⟩ := after
  exact ⟨text :: texts, entries, rfl, fun isClosed => absurd isClosed notClosed, distinct,
    fun entry member already => fresh entry member (less _ already)⟩

theorem After.keyword (after : After laterClosed laterTaken items)
    (less : ∀ key, taken key → laterTaken key) (isClosed : laterClosed) {key : Text}
    (fresh : ¬taken key) (now : laterTaken key) (text : Text) :
    After closed taken (.keyword key text :: items) := by
  obtain ⟨texts, entries, rfl, noTexts, distinct, freshLater⟩ := after
  obtain rfl := noTexts isClosed
  refine ⟨[], (key, text) :: entries, rfl, fun _ => rfl, ?_, ?_⟩
  · refine List.nodup_cons.mpr ⟨?_, distinct⟩
    intro member
    obtain ⟨entry, inEntries, rfl⟩ := List.mem_map.mp member
    exact freshLater entry inEntries now
  · refine List.forall_mem_cons.mpr ⟨fresh, ?_⟩
    intro entry member already
    exact freshLater entry member (less _ already)

end Orderly

namespace Shape

variable {shape : Shape} {grammar : Grammar}

theorem orderly_of_supplyItems {supply final : Supply} {items : List Item}
    (supplied : shape.supplyItems grammar supply items = .ok final) :
    Orderly.After (supply.keywordSeen = true) (fun key => (supply.value? key).isSome = true)
      items := by
  induction items generalizing supply with
  | nil => exact .nil _ _
  | cons item items ih =>
      rw [supplyItems] at supplied
      split at supplied
      next after taken =>
        have rest := ih supplied
        cases item with
        | positional text =>
            simp only [supplyItem] at taken
            split at taken
            · simp at taken
            next unseen =>
              split at taken
              · simp at taken
              next slot pending waiting =>
                simp only [Except.ok.injEq] at taken
                subst taken
                refine rest.positional ?_ unseen text
                intro key already
                simp only [Supply.value?, List.lookup_cons] at already ⊢
                split <;> simp_all
        | keyword key text =>
            simp only [supplyItem] at taken
            split at taken
            · simp at taken
            next slot known =>
              split at taken
              · simp at taken
              next fresh =>
                split at taken
                · simp at taken
                · simp only [Except.ok.injEq] at taken
                  subst taken
                  refine rest.keyword ?_ rfl fresh ?_ text
                  · intro other already
                    simp only [Supply.value?, List.lookup_cons] at already ⊢
                    split <;> simp_all
                  · simp [Supply.value?]
      · simp at supplied

theorem orderly_of_bindSlots {items : List Item} {call : BoundCall}
    (bound : shape.bindSlots grammar items = .ok call) : Orderly items := by
  unfold bindSlots at bound
  split at bound
  · simp at bound
  next supply supplied => exact (orderly_of_supplyItems supplied).orderly

end Shape

namespace BoundCall

variable {grammar : Grammar}

theorem orderly_of_addItems {call final : BoundCall} {items : List Item}
    (added : call.addItems grammar items = .ok final) :
    Orderly.After (call.named ≠ []) (fun key => call.named.any (·.name = key) = true) items := by
  induction items generalizing call with
  | nil => exact .nil _ _
  | cons item items ih =>
      rw [addItems] at added
      split at added
      next after taken =>
        have rest := ih added
        cases item with
        | positional text =>
            simp only [addItem] at taken
            split at taken
            · simp at taken
            next none =>
              simp only [Except.ok.injEq] at taken
              subst taken
              exact rest.positional (fun key already => already) none text
        | keyword key text =>
            simp only [addItem] at taken
            split at taken
            · simp at taken
            next fresh =>
              simp only [Except.ok.injEq] at taken
              subst taken
              refine rest.keyword ?_ (by simp) fresh (by simp) text
              intro other already
              simp only [List.any_append, already, Bool.true_or]
      · simp at added

theorem addItems_positional (grammar : Grammar) {call : BoundCall} (none : call.named = [])
    (texts : List Text) (later : List Item) :
    ∃ final : BoundCall, final.named = [] ∧
      call.addItems grammar (texts.map .positional ++ later) = final.addItems grammar later := by
  induction texts generalizing call with
  | nil => exact ⟨call, none, rfl⟩
  | cons text texts ih =>
      simp only [List.map_cons, List.cons_append, addItems, addItem, none, ne_eq, not_true_eq_false,
        if_false]
      exact ih rfl

theorem addItems_keyword (grammar : Grammar) {call : BoundCall} {entries : List (Text × Text)}
    (distinct : (entries.map Prod.fst).Nodup)
    (fresh : ∀ entry ∈ entries, call.named.any (·.name = entry.1) = false) :
    ∃ final, call.addItems grammar (entries.map fun entry => .keyword entry.1 entry.2) =
      .ok final := by
  induction entries generalizing call with
  | nil => exact ⟨call, rfl⟩
  | cons entry entries ih =>
      simp only [List.map_cons, List.nodup_cons] at distinct
      simp only [List.map_cons, addItems, addItem, fresh entry (by simp), Bool.false_eq_true,
        if_false]
      apply ih distinct.2
      intro other member
      have apart : entry.1 ≠ other.1 := fun same =>
        distinct.1 (List.mem_map.mpr ⟨other, member, same.symm⟩)
      simp [List.any_append, fresh other (by simp [member]), apart]

end BoundCall

/-- A shape for any arguments accepts exactly the orderly items. -/
theorem bind_variadic_isOk_iff {grammar : Grammar} {items : List Item} :
    (∃ call, Shape.variadic.bind grammar items = .ok call) ↔ Orderly items := by
  constructor
  · rintro ⟨call, bound⟩
    exact (BoundCall.orderly_of_addItems bound).orderly
  · rintro ⟨texts, entries, rfl, distinct⟩
    have start : ({} : BoundCall).named = [] := rfl
    obtain ⟨call, none, rest⟩ := BoundCall.addItems_positional grammar start texts
      (entries.map fun entry => .keyword entry.1 entry.2)
    have fresh : ∀ entry ∈ entries, call.named.any (·.name = entry.1) = false := by simp [none]
    obtain ⟨final, added⟩ := BoundCall.addItems_keyword grammar distinct fresh
    exact ⟨final, rest.trans added⟩

/-- What any shape accepts, a shape for any arguments accepts as well. -/
theorem bind_variadic_of_bind {shape : Shape} {grammar : Grammar} {items : List Item}
    {call : BoundCall} (bound : shape.bind grammar items = .ok call) :
    ∃ other, Shape.variadic.bind grammar items = .ok other := by
  apply bind_variadic_isOk_iff.mpr
  unfold Shape.bind at bound
  split at bound
  · exact (BoundCall.orderly_of_addItems bound).orderly
  · exact Shape.orderly_of_bindSlots bound

/-! ## A shape for given items -/

/-- An identifier that is longer than all of some keys. -/
def freshName (keys : List Text) (index : Nat) : Text :=
  List.replicate (keys.flatten.length + index + 1) 'a'

theorem isIdentifier_freshName (keys : List Text) (index : Nat) :
    isIdentifier (freshName keys index) = true := by
  have word : Unicode.isWord 'a' = true := by decide
  have letter : Unicode.isDecimalDigit 'a' = false := by decide
  simp [freshName, List.replicate_succ, isIdentifier, word, letter]

theorem freshName_not_mem (keys : List Text) (index : Nat) : freshName keys index ∉ keys := by
  intro member
  have short := (List.sublist_flatten_of_mem member).length_le
  simp only [freshName, List.length_replicate] at short
  omega

theorem freshName_injective (keys : List Text) {first second : Nat}
    (same : freshName keys first = freshName keys second) : first = second := by
  have lengths := congrArg List.length same
  simp only [freshName, List.length_replicate] at lengths
  omega

/-- Required slots for so many positional items. -/
def requiredSlots (keys : List Text) (count : Nat) : List Slot :=
  (List.range count).map fun index => ⟨freshName keys index, .required, none⟩

/-- A named slot for each key. -/
def keySlots (keys : List Text) : List Slot :=
  keys.map fun key => ⟨key, .named, none⟩

theorem wellDeclared_slots {keys : List Text} (count : Nat) (distinct : keys.Nodup)
    (identifiers : ∀ key ∈ keys, isIdentifier key = true) :
    WellDeclared (requiredSlots keys count ++ keySlots keys) where
  identifiers := by
    intro slot member
    rcases List.mem_append.mp member with required | named
    · obtain ⟨index, -, rfl⟩ := List.mem_map.mp required
      exact isIdentifier_freshName keys index
    · obtain ⟨key, inKeys, rfl⟩ := List.mem_map.mp named
      exact identifiers key inKeys
  pairwise := by
    rw [List.pairwise_append]
    refine ⟨?_, ?_, ?_⟩
    · rw [requiredSlots, List.pairwise_map]
      refine List.nodup_range.imp fun apart => ⟨fun same => ?_, by simp⟩
      exact apart (freshName_injective keys same)
    · rw [keySlots, List.pairwise_map]
      exact distinct.imp fun apart => ⟨apart, by simp⟩
    · intro slot required other named
      obtain ⟨index, -, rfl⟩ := List.mem_map.mp required
      obtain ⟨key, inKeys, rfl⟩ := List.mem_map.mp named
      refine ⟨fun same => freshName_not_mem keys index ?_, by simp⟩
      rw [show freshName keys index = key from same]
      exact inKeys

theorem filter_requiredSlots (keys : List Text) (count : Nat) {test : Slot → Bool}
    (passes : ∀ name, test ⟨name, .required, none⟩ = true)
    (fails : ∀ name, test ⟨name, .named, none⟩ = false) :
    (requiredSlots keys count ++ keySlots keys).filter test = requiredSlots keys count := by
  have kept : (requiredSlots keys count).filter test = requiredSlots keys count := by
    apply List.filter_eq_self.mpr
    intro slot member
    obtain ⟨index, -, rfl⟩ := List.mem_map.mp member
    exact passes _
  have dropped : (keySlots keys).filter test = [] := by
    apply List.filter_eq_nil_iff.mpr
    intro slot member
    obtain ⟨key, -, rfl⟩ := List.mem_map.mp member
    simp [fails]
  rw [List.filter_append, kept, dropped, List.append_nil]

/-- A shape for the given positional texts and keyword entries. -/
def shapeFor (texts : List Text) (entries : List (Text × Text)) : Shape :=
  let keys := entries.map Prod.fst
  { parameters := .fixed (requiredSlots keys texts.length ++ keySlots keys) }

section ShapeFor

variable {texts : List Text} {entries : List (Text × Text)}

theorem shapeFor_positional :
    (shapeFor texts entries).positional = requiredSlots (entries.map Prod.fst) texts.length :=
  filter_requiredSlots _ _ (fun _ => rfl) (fun _ => rfl)

theorem shapeFor_required :
    (shapeFor texts entries).required = requiredSlots (entries.map Prod.fst) texts.length :=
  filter_requiredSlots _ _ (fun _ => rfl) (fun _ => rfl)

theorem fits_shapeFor (distinct : (entries.map Prod.fst).Nodup) :
    (shapeFor texts entries).Fits texts.length (entries.map Prod.fst) := by
  refine ⟨⟨?_, distinct, fun key member => ?_⟩, ?_⟩
  · simp [shapeFor_positional, requiredSlots]
  · have inSlots : (⟨key, .named, none⟩ : Slot) ∈ (shapeFor texts entries).slots :=
      List.mem_append_right _ (List.mem_map.mpr ⟨key, member, rfl⟩)
    refine ⟨_, inSlots, rfl, rfl, fun inTake => ?_⟩
    cases List.of_mem_filter (List.mem_of_mem_take inTake)
  · simp [shapeFor_required, requiredSlots]

end ShapeFor

/-- Orderly items whose keys are identifiers bind to some declared shape. -/
theorem exists_declared_of_orderly (grammar : Grammar) {items : List Item}
    (orderly : Orderly items)
    (identifiers : ∀ key text, .keyword key text ∈ items → isIdentifier key = true) :
    ∃ slots shape call, Shape.declare slots = .ok shape ∧ shape.bind grammar items = .ok call := by
  obtain ⟨texts, entries, rfl, distinct⟩ := orderly
  have identifierKeys : ∀ key ∈ entries.map Prod.fst, isIdentifier key = true := by
    intro key member
    obtain ⟨entry, inEntries, rfl⟩ := List.mem_map.mp member
    exact identifiers entry.1 entry.2
      (List.mem_append_right _ (List.mem_map.mpr ⟨entry, inEntries, rfl⟩))
  have declared : WellDeclared (shapeFor texts entries).slots :=
    wellDeclared_slots texts.length distinct identifierKeys
  obtain ⟨call, bound⟩ := (Shape.bindSlots_itemsOf_isOk_iff declared grammar).mpr
    (fits_shapeFor distinct)
  exact ⟨_, shapeFor texts entries, call, Shape.declare_eq_ok_iff.mpr ⟨declared, rfl⟩, bound⟩

end CallMarkup
