import CallMarkup.Call.Item
import CallMarkup.Proofs.Document.Units

/-!
# Reading written items

An item can be written when its text keeps inside one unit and one item, and
classifies as the item again.  A list of such items is read back from the
arguments of the unit that it is written to.
-/

namespace CallMarkup.Grammar

variable {grammar : Grammar}

/-- Characters that can stand in an item as they are. -/
def InertInItem (grammar : Grammar) (c : Char) : Prop :=
  c ≠ grammar.separator ∧ grammar.Inert c

/-- Items whose text is read back as the item, wherever it stands in a unit. -/
structure Writable (grammar : Grammar) (item : Item) : Prop where
  made : grammar.MadeOf grammar.InertInItem (grammar.writeItem item)
  classify : grammar.classify (grammar.writeItem item) = item

theorem inertInItem_of_not_isReserved {c : Char} (free : grammar.isReserved c = false)
    (sameLine : grammar.multiline = false → c ≠ '\n') : grammar.InertInItem c := by
  obtain ⟨-, notSeparator, -, notIn, notOut⟩ := isReserved_eq_false_iff.mp free
  exact ⟨notSeparator, ⟨notIn, notOut⟩, sameLine⟩

/-- No symbol of a grammar is a line break. -/
theorem symbol_ne_newline (grammar : Grammar) (role : SymbolRole) :
    role.symbol grammar.toGrammarSpec ≠ '\n' := by
  intro newline
  have symbol := grammar.valid.isSymbol_symbol role
  rw [newline] at symbol
  exact absurd symbol (by decide)

theorem inertInItem_assignment (grammar : Grammar) : grammar.InertInItem grammar.assignment :=
  ⟨grammar.valid.separator_ne_assignment.symm, grammar.assignment_not_mem_delimiters,
    fun _ => grammar.symbol_ne_newline .assignment⟩

theorem inert_separator (grammar : Grammar) : grammar.Inert grammar.separator :=
  ⟨grammar.separator_not_mem_delimiters, fun _ => grammar.symbol_ne_newline .separator⟩

/-- Escaping keeps a value inside one item. -/
theorem madeOf_escapeReserved_inert (guarded : Bool) {value : Text}
    (sameLine : grammar.multiline = false → '\n' ∉ value) :
    grammar.MadeOf grammar.InertInItem (grammar.escapeReserved guarded value) := by
  apply madeOf_escapeReserved
  intro c member plain
  rcases plain with rfl | free
  · exact grammar.inertInItem_assignment
  · exact inertInItem_of_not_isReserved free fun single same => sameLine single (same ▸ member)

theorem writable_positional (notWord : Unicode.isWord grammar.escape = false) {value : Text}
    (sameLine : grammar.multiline = false → '\n' ∉ value) :
    grammar.Writable (.positional (grammar.escapeValue true value)) where
  made := madeOf_escapeReserved_inert _ sameLine
  classify := by
    simp [Grammar.classify, writeItem, keywordParts?_escapeValue notWord]

theorem writable_keyword {key : Text} (identifier : isIdentifier key = true)
    (free : ∀ c ∈ key, grammar.isReserved c = false) {value : Text}
    (sameLine : grammar.multiline = false → '\n' ∉ value) :
    grammar.Writable (.keyword key (grammar.escapeValue false value)) where
  made := by
    have keyMade : grammar.MadeOf grammar.InertInItem key := .of_forall fun c member => by
      refine ⟨(isReserved_eq_false_iff.mp (free c member)).1,
        inertInItem_of_not_isReserved (free c member) ?_⟩
      rintro - rfl
      exact absurd (isWord_of_mem_identifier identifier member) (by decide)
    exact keyMade.append (.single grammar.escape_ne_assignment.symm
      grammar.inertInItem_assignment (madeOf_escapeReserved_inert _ sameLine))
  classify := by
    simp [Grammar.classify, writeItem, keywordParts?_keyword identifier free]

/-- Read as a list of arguments, the inner text of a unit begins with the name of
the unit. -/
theorem items_inner (grammar : Grammar) (inner : Text) :
    grammar.items (some inner) =
      grammar.classify (grammar.nameAndArguments inner).1 ::
        grammar.items (grammar.nameAndArguments inner).2 := by
  unfold nameAndArguments
  cases cut : grammar.cutUnescaped? grammar.separator inner with
  | none => simp [items, splitUnescaped_of_cutUnescaped?_eq_none cut]
  | some parts =>
      obtain ⟨name, arguments⟩ := parts
      simp [items, splitUnescaped_of_cutUnescaped? grammar.valid.separator_ne_escape cut]

/-- Items between separators are read back. -/
theorem items_writeItem {first : Item} {later : List Item}
    (writable : ∀ item ∈ first :: later, grammar.Writable item) :
    grammar.items (some (grammar.writeItem first ++
      later.flatMap fun item => grammar.separator :: grammar.writeItem item)) =
        first :: later := by
  have apart : ∀ item ∈ first :: later,
      grammar.MadeOf (· ≠ grammar.separator) (grammar.writeItem item) := fun item member =>
    (writable item member).made.mono fun _ inert => inert.1
  have apartLater : ∀ piece ∈ later.map grammar.writeItem,
      grammar.MadeOf (· ≠ grammar.separator) piece := by
    intro piece member
    obtain ⟨item, itemMember, rfl⟩ := List.mem_map.mp member
    exact apart item (by simp [itemMember])
  have pieces := splitUnescaped_flatMap grammar.valid.separator_ne_escape
    (apart first (by simp)) apartLater
  rw [List.flatMap_map] at pieces
  simp only [items, pieces, List.map_cons, List.map_map]
  congr 1
  · exact (writable first (by simp)).classify
  · have same : ∀ item ∈ later, (grammar.classify ∘ grammar.writeItem) item = id item :=
      fun item member => (writable item (by simp [member])).classify
    exact (List.map_congr_left same).trans (List.map_id later)

/-- The text between the delimiters of a written unit. -/
def writeInner (grammar : Grammar) (name : Text) (items : List Item) : Text :=
  name ++ items.flatMap fun item => grammar.separator :: grammar.writeItem item

theorem writeUnit_eq_delimited (grammar : Grammar) (name : Text) (items : List Item) :
    grammar.writeUnit name items = grammar.delimited (grammar.writeInner name items) := by
  simp [writeUnit, delimited, writeInner]

theorem madeOf_writeInner {name : Text} {items : List Item}
    (nameMade : grammar.MadeOf grammar.Inert name)
    (writable : ∀ item ∈ items, grammar.Writable item) :
    grammar.MadeOf grammar.Inert (grammar.writeInner name items) := by
  refine nameMade.append ?_
  induction items with
  | nil => exact .nil
  | cons item items ih =>
      rw [List.flatMap_cons, List.cons_append]
      have itemMade := (writable item (by simp)).made.mono fun _ inert => inert.2
      exact .single grammar.valid.separator_ne_escape grammar.inert_separator
        (itemMade.append (ih fun other member => writable other (by simp [member])))

end CallMarkup.Grammar
